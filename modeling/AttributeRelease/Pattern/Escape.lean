import AttributeRelease.Pattern.Class
import AttributeRelease.Pattern.Fault
import AttributeRelease.Text.Blank

/-!
# Escapes

What follows a backslash in a pattern, and the numbers that a pattern holds. Every reader takes
the characters that are left and returns what it read with those that are left after it. Where
blanks and comments are passed over, `skip` stands after each character read.
-/

namespace AttributeRelease.Pattern

open Text

/-- Passes over blanks and comments; `comment` says that a comment has begun. -/
def skipBlanks : Bool → List Char → List Char
  | _, [] => []
  | true, c :: rest => skipBlanks (c != '\n') rest
  | false, c :: rest =>
    if isBlank c then skipBlanks false rest
    else if c == '#' then skipBlanks true rest
    else c :: rest

/-- Passes over blanks and comments if the flags ask for it. -/
def Flags.skip (flags : Flags) (cs : List Char) : List Char :=
  if flags.verbose then skipBlanks false cs else cs

/-- A single item of a pattern. -/
inductive Atom
  /-- A character; `raw` says that it was given by two digits, so that it can stand for a byte. -/
  | char (c : Char) (raw : Bool)
  | set (s : CharSet)
  | place (p : Place)
deriving DecidableEq, Repr

/-! ## Numbers -/

/-- Decimal digits, and what is left after them. -/
def takeDigits (flags : Flags) : Nat → List Char → List Char → List Char × List Char
  | 0, digits, cs => (digits.reverse, cs)
  | _ + 1, digits, [] => (digits.reverse, [])
  | room + 1, digits, c :: rest =>
    if c.isDigit then takeDigits flags room (c :: digits) (flags.skip rest)
    else (digits.reverse, c :: rest)

/-- The value of decimal digits. -/
def decimalValue (digits : List Char) : Nat :=
  digits.foldl (fun n c => 10 * n + (c.toNat - '0'.toNat)) 0

/-- A decimal number, between blanks; it has to fit into 32 bits. -/
def readDecimal (flags : Flags) (cs : List Char) : Except Fault (Nat × List Char) :=
  let start := dropBlanks cs
  let (digits, rest) := takeDigits flags start.length [] start
  let value := decimalValue digits
  if digits.isEmpty || value ≥ Nat.pow 2 32 then .error .repetitionInvalid
  else .ok (value, flags.skip (dropBlanks rest))

/-- The value of hexadecimal digits. -/
def hexValue (digits : List Char) : Nat :=
  digits.foldl (fun n c => 16 * n + (CharSet.hexDigit? c).getD 0) 0

/-- The character with a code. -/
def charOfCode (digits : List Char) : Except Fault Char :=
  let n := hexValue digits
  if digits.isEmpty || !n.isValidChar then .error .codeInvalid else .ok (Char.ofNat n)

/-- As many hexadecimal digits as are asked for. -/
def takeHex (flags : Flags) : Nat → List Char → List Char → Except Fault (List Char × List Char)
  | 0, digits, cs => .ok (digits.reverse, cs)
  | _ + 1, _, [] => .error .escapeUnfinished
  | n + 1, digits, c :: rest =>
    if (CharSet.hexDigit? c).isSome then takeHex flags n (c :: digits) (flags.skip rest)
    else .error .codeInvalid

/-- The characters up to a closing brace. -/
def takeBraced (flags : Flags) : Nat → List Char → List Char →
    Except Fault (List Char × List Char)
  | 0, _, _ => .error .escapeUnfinished
  | _ + 1, _, [] => .error .escapeUnfinished
  | room + 1, inside, c :: rest =>
    if c == '\x7d' then .ok (inside.reverse, rest)
    else takeBraced flags room (c :: inside) (flags.skip rest)

/-- A character given by its code, either between braces or with a fixed number of digits. -/
def readCode (flags : Flags) (width : Nat) (cs : List Char) : Except Fault (Char × List Char) :=
  match flags.skip cs with
  | [] => .error .escapeUnfinished
  | c :: rest =>
    if c == '\x7b' then do
      let (inside, rest) ← takeBraced flags (rest.length + 1) [] (flags.skip rest)
      if inside.all fun d => (CharSet.hexDigit? d).isSome then
        return (← charOfCode inside, flags.skip rest)
      else .error .codeInvalid
    else do
      let (digits, rest) ← takeHex flags width [] (c :: rest)
      return (← charOfCode digits, rest)

/-! ## Escapes -/

/-- The set of an escape for a property; `other` asks for all other characters. -/
def readProperty (flags : Flags) (other : Bool) (cs : List Char) :
    Except Fault (CharSet × List Char) := do
  let (query, rest) ←
    match flags.skip cs with
    | [] => .error .escapeUnfinished
    | c :: rest =>
      if c == '\x7b' then takeBraced flags (rest.length + 1) [] (flags.skip rest)
      else if c == '\\' then .error .propertyUnknown
      else .ok ([c], flags.skip rest)
  if !flags.unicode then .error .unicodeDisabled
  else
    match flags.library.query? query with
    | none => .error .propertyUnknown
    | some set =>
      let set := Class.fold flags set
      return (if other then set.complement else set, rest)

/-- The places that `\b` can name between braces. -/
def wordPlace? (word : CharSet) (name : List Char) : Option Place :=
  match String.ofList name with
  | "start" => some (.wordStart word)
  | "end" => some (.wordEnd word)
  | "start-half" => some (.afterWord word)
  | "end-half" => some (.beforeWord word)
  | _ => none

/-- What follows `\b`: the name of a place between braces, or nothing. -/
def readEdge (flags : Flags) (cs : List Char) : Except Fault (Place × List Char) :=
  let word := Class.wordFor flags
  match cs with
  | '\x7b' :: rest =>
    match flags.skip rest with
    | [] => .error .escapeUnfinished
    | c :: more =>
      if c.isAlpha || c == '-' then do
        let (name, rest) ← takeBraced flags (more.length + 2) [] (c :: more)
        match wordPlace? word name with
        | some p => return (p, rest)
        | none => .error .escapeUnknown
      else .ok (.edge word, cs)
  | _ => .ok (.edge word, cs)

/-- The ASCII characters that a backslash makes plain: all but letters, digits and angles. -/
def isEscapable (c : Char) : Bool :=
  c.toNat < 128 && !c.isAlphanum && c != '<' && c != '>'

/-- What the characters after a backslash stand for. -/
def readEscape (flags : Flags) : List Char → Except Fault (Atom × List Char)
  | [] => .error .escapeUnfinished
  | c :: rest =>
    match c with
    | 'x' =>
      let raw := (flags.skip rest).head? != some '\x7b'
      (readCode flags 2 rest).map fun (d, rest) => (.char d raw, rest)
    | 'u' => (readCode flags 4 rest).map fun (d, rest) => (.char d false, rest)
    | 'U' => (readCode flags 8 rest).map fun (d, rest) => (.char d false, rest)
    | 'p' => (readProperty flags false rest).map fun (s, rest) => (.set s, rest)
    | 'P' => (readProperty flags true rest).map fun (s, rest) => (.set s, rest)
    | 'a' => .ok (.char '\x07' false, rest)
    | 'f' => .ok (.char '\x0c' false, rest)
    | 't' => .ok (.char '\t' false, rest)
    | 'n' => .ok (.char '\n' false, rest)
    | 'r' => .ok (.char '\r' false, rest)
    | 'v' => .ok (.char '\x0b' false, rest)
    | 'A' => .ok (.place .textStart, rest)
    | 'z' => .ok (.place .textEnd, rest)
    | 'b' => (readEdge flags rest).map fun (p, rest) => (.place p, rest)
    | 'B' => .ok (.place (.notEdge (Class.wordFor flags)), rest)
    | '<' => .ok (.place (.wordStart (Class.wordFor flags)), rest)
    | '>' => .ok (.place (.wordEnd (Class.wordFor flags)), rest)
    | c =>
      match Class.shorthand? flags c with
      | some set => .ok (.set set, rest)
      | none =>
        if c.isDigit then .error .backReference
        else if isEscapable c then .ok (.char c false, rest)
        else .error .escapeUnknown

end AttributeRelease.Pattern
