import AttributeRelease.Calendar.Date
import AttributeRelease.Json.Parser

/-!
# Scalars of TOML documents

Strings, numbers and dates. A reader takes characters from the front and returns what it read and
what is left. A date is kept as a record without known fields, because no setting is a date.
-/

namespace AttributeRelease.Toml

open AttributeRelease.Number (Binary64 isDigit digit? spanDigits)

/-- A reader takes characters from the front. -/
abbrev Reader (α : Type) := List Char → Option (α × List Char)

def isGap (c : Char) : Bool := c == ' ' || c == '\t'

def skipGaps (cs : List Char) : List Char := cs.dropWhile isGap

/-- A line ends with a line feed, which may follow a carriage return. -/
def newline? : List Char → Option (List Char)
  | '\n' :: rest => some rest
  | '\r' :: '\n' :: rest => some rest
  | _ => none

/-- The characters that stand for themselves; a control character is none of them. -/
def isPlain (c : Char) : Bool := c == '\t' || (0x20 ≤ c.toNat && c.toNat ≠ 0x7F)

/-! ## Strings -/

/-- The code point that hexadecimal digits denote, if it is a character. -/
def charOfHex? (digits : List Char) : Option Char := do
  let n ← digits.foldlM (fun n c => (Json.hex? c).map (16 * n + ·)) 0
  if n < 0xD800 ∨ (0xE000 ≤ n ∧ n < 0x110000) then some (Char.ofNat n) else none

/-- Reads an escape after its backslash. -/
def escape? : Reader Char
  | 'b' :: rest => some ('\x08', rest)
  | 't' :: rest => some ('\t', rest)
  | 'n' :: rest => some ('\n', rest)
  | 'f' :: rest => some ('\x0c', rest)
  | 'r' :: rest => some ('\r', rest)
  | '"' :: rest => some ('"', rest)
  | '\\' :: rest => some ('\\', rest)
  | 'u' :: a :: b :: c :: d :: rest => (charOfHex? [a, b, c, d]).map fun x => (x, rest)
  | 'U' :: a :: b :: c :: d :: e :: f :: g :: h :: rest =>
    (charOfHex? [a, b, c, d, e, f, g, h]).map fun x => (x, rest)
  | _ => none

/-- Reads a string between double quotes after its first quote; `room` bounds its length. -/
def basicBody? : Nat → Reader (List Char)
  | 0, _ => none
  | _ + 1, '"' :: rest => some ([], rest)
  | room + 1, '\\' :: rest => do
    let (c, rest) ← escape? rest
    let (cs, rest) ← basicBody? room rest
    return (c :: cs, rest)
  | room + 1, c :: rest =>
    if isPlain c then (basicBody? room rest).map fun (cs, rest) => (c :: cs, rest) else none
  | _ + 1, [] => none

/-- Reads a string between single quotes after its first quote. -/
def literalBody? : Reader (List Char)
  | '\'' :: rest => some ([], rest)
  | c :: rest =>
    if isPlain c then (literalBody? rest).map fun (cs, rest) => (c :: cs, rest) else none
  | [] => none

/-- The blank rest of a line, and all blank lines after it. -/
def lineBreak? (cs : List Char) : Option (List Char) :=
  (newline? (skipGaps cs)).map fun rest =>
    rest.dropWhile fun c => isGap c || c == '\n' || c == '\r'

/-- The end of a string between triple quotes: one or two quotes before it are part of the
string. -/
def tripleEnd? (q : Char) : List Char → Option (List Char × List Char)
  | a :: b :: c :: rest =>
    if a = q ∧ b = q ∧ c = q then
      match rest with
      | d :: e :: more =>
        if d = q ∧ e = q then some ([q, q], more)
        else if d = q then some ([q], e :: more) else some ([], rest)
      | [d] => if d = q then some ([q], []) else some ([], rest)
      | [] => some ([], [])
    else none
  | _ => none

/-- Reads a string between triple quotes after the first three; only between double quotes are
there escapes, and there a backslash at the end of a line takes the break away. -/
def tripleBody? (q : Char) : Nat → Reader (List Char)
  | 0, _ => none
  | room + 1, cs =>
    match tripleEnd? q cs with
    | some r => some r
    | none =>
      match cs with
      | [] => none
      | '\r' :: '\n' :: rest => (tripleBody? q room rest).map fun (cs, rest) => ('\n' :: cs, rest)
      | '\n' :: rest => (tripleBody? q room rest).map fun (cs, rest) => ('\n' :: cs, rest)
      | c :: rest =>
        if c = '\\' ∧ q = '"' then
          match lineBreak? rest with
          | some rest => tripleBody? q room rest
          | none => do
            let (c, rest) ← escape? rest
            let (cs, rest) ← tripleBody? q room rest
            return (c :: cs, rest)
        else if isPlain c then (tripleBody? q room rest).map fun (cs, rest) => (c :: cs, rest)
        else none

/-- A line break directly after the opening quotes is no part of the string. -/
def afterOpening (cs : List Char) : List Char := (newline? cs).getD cs

/-- Reads a string of one line. -/
def lineString? : Reader String
  | '"' :: rest => (basicBody? (rest.length + 1) rest).map fun (cs, rest) => (.ofList cs, rest)
  | '\'' :: rest => (literalBody? rest).map fun (cs, rest) => (.ofList cs, rest)
  | _ => none

/-- Reads a string. -/
def string? : Reader String
  | '"' :: '"' :: '"' :: rest =>
    (tripleBody? '"' (rest.length + 1) (afterOpening rest)).map fun (cs, rest) => (.ofList cs, rest)
  | '\'' :: '\'' :: '\'' :: rest =>
    (tripleBody? '\'' (rest.length + 1) (afterOpening rest)).map fun (cs, rest) =>
      (.ofList cs, rest)
  | cs => lineString? cs

/-! ## Numbers -/

/-- Reads digits between which there may be single underscores. -/
def spacedDigits? (isDigit : Char → Bool) : Reader (List Char)
  | [] => none
  | c :: rest =>
    if isDigit c then
      match rest with
      | '_' :: d :: more =>
        if isDigit d then
          (spacedDigits? isDigit (d :: more)).map fun (ds, rest) => (c :: ds, rest)
        else some ([c], rest)
      | d :: more =>
        if isDigit d then
          (spacedDigits? isDigit (d :: more)).map fun (ds, rest) => (c :: ds, rest)
        else some ([c], rest)
      | [] => some ([c], [])
    else none

/-- A whole number that fits into 64 bits. -/
def wholeNumber? (n : Int) : Option Json :=
  if -Int.pow 2 63 ≤ n ∧ n < Int.pow 2 63 then some (.ofInt64 (Int64.ofInt n)) else none

/-- Reads a whole number in the given base, after the mark of the base. -/
def inBase? (base : Nat) : Reader Json := fun cs => do
  let below (c : Char) : Bool := match Json.hex? c with
    | some d => d < base
    | none => false
  let (ds, rest) ← spacedDigits? below cs
  let n := ds.foldl (fun n c => base * n + (Json.hex? c).getD 0) 0
  return (← wholeNumber? n, rest)

/-- Reads decimal digits without a leading zero. -/
def decimalDigits? : Reader (List Char)
  | '0' :: rest => some (['0'], rest)
  | cs => spacedDigits? isDigit cs

/-- Reads a fraction and an exponent, of which one has to be there; the answer is their text. -/
def fractionExponent? (cs : List Char) : Option (List Char × List Char) := do
  let (fraction, rest) ← match cs with
    | '.' :: rest => (spacedDigits? isDigit rest).map fun (ds, rest) => ('.' :: ds, rest)
    | _ => some ([], cs)
  let exponent? : Option (List Char × List Char) := match rest with
    | e :: rest =>
      if e = 'e' ∨ e = 'E' then
        let (sign, rest) := match rest with
          | '-' :: more => (['-'], more)
          | '+' :: more => ([], more)
          | _ => ([], rest)
        (spacedDigits? isDigit rest).map fun (ds, rest) => ('e' :: sign ++ ds, rest)
      else none
    | [] => none
  match exponent?, fraction with
  | some (exponent, rest), _ => some (fraction ++ exponent, rest)
  | none, [] => none
  | none, _ => some (fraction, rest)

/-- A number with the given sign from its parts; it may not be too large. -/
def doubleOf? (negative : Bool) (text : List Char) : Option Json :=
  (Number.unsignedBinary64? negative text).bind fun x =>
    if x = .infinity false then none else some (.number (.double x))

/-- Reads a number after its sign. -/
def unsignedNumber? (negative : Bool) : Reader Json
  | 'i' :: 'n' :: 'f' :: rest => some (.number (.double (.infinity negative)), rest)
  | 'n' :: 'a' :: 'n' :: rest => some (.number (.double (.nan negative)), rest)
  | cs => do
    let (ds, rest) ← decimalDigits? cs
    match fractionExponent? rest with
    | some (more, rest) => return (← doubleOf? negative (ds ++ more), rest)
    | none =>
      let n : Int := Number.natOfDigits 0 ds
      return (← wholeNumber? (if negative then -n else n), rest)

/-- Reads a number. -/
def number? : Reader Json
  | '+' :: rest => unsignedNumber? false rest
  | '-' :: rest => unsignedNumber? true rest
  | '0' :: 'x' :: rest => inBase? 16 rest
  | '0' :: 'o' :: rest => inBase? 8 rest
  | '0' :: 'b' :: rest => inBase? 2 rest
  | cs => unsignedNumber? false cs

/-! ## Dates and times -/

/-- Reads a number of exactly `width` digits that lies between two bounds. -/
def digits? (width low high : Nat) : Reader Nat := fun cs =>
  let ds := cs.take width
  let n := Number.natOfDigits 0 ds
  if ds.length = width ∧ ds.all isDigit ∧ low ≤ n ∧ n ≤ high then some (n, cs.drop width) else none

def char? (c : Char) : List Char → Option (List Char)
  | [] => none
  | d :: rest => if c = d then some rest else none

/-- Reads year, month and day. -/
def date? (cs : List Char) : Option (List Char) := do
  let (year, cs) ← digits? 4 0 9999 cs
  let cs ← char? '-' cs
  let (month, cs) ← digits? 2 1 12 cs
  let cs ← char? '-' cs
  let (_, cs) ← digits? 2 1 (Calendar.daysIn year month) cs
  return cs

/-- Reads hour, minute, second and a fraction if there is one. -/
def time? (cs : List Char) : Option (List Char) := do
  let (_, cs) ← digits? 2 0 23 cs
  let cs ← char? ':' cs
  let (_, cs) ← digits? 2 0 59 cs
  let cs ← char? ':' cs
  let (_, cs) ← digits? 2 0 60 cs
  match cs with
  | '.' :: rest =>
    let (ds, rest) := spanDigits rest
    if ds = [] then none else some rest
  | _ => some cs

/-- Passes over the offset of a time zone if there is one. -/
def offset? (cs : List Char) : Option (List Char) :=
  match cs with
  | [] => some []
  | c :: rest =>
    if c = 'Z' ∨ c = 'z' then some rest
    else if c = '+' ∨ c = '-' then do
      let (_, cs) ← digits? 2 0 23 rest
      let cs ← char? ':' cs
      let (_, cs) ← digits? 2 0 59 cs
      return cs
    else some cs

/-- Reads a day, a time of day, or both. -/
def moment? : Reader Json := fun cs =>
  let answer (rest : List Char) : Json × List Char := (.object [("moment", .null)], rest)
  match date? cs with
  | none => (time? cs).map answer
  | some rest =>
    match rest with
    | c :: more =>
      if c = 'T' ∨ c = 't' ∨ (c = ' ' ∧ more.head?.any isDigit) then
        ((time? more).bind offset?).map answer
      else some (answer rest)
    | [] => some (answer [])

end AttributeRelease.Toml
