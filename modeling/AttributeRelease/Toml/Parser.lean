import AttributeRelease.Toml.Basic

/-!
# Reading TOML documents

A document is read into a tree of tables, which is then the same as a JSON document.
-/

namespace AttributeRelease.Toml

/-- Arrays, inline tables and dotted keys may not be nested as deep as this. -/
def maxDepth : Nat := 80

/-! ## Keys -/

def isBare (c : Char) : Bool :=
  ('A' ≤ c && c ≤ 'Z') || ('a' ≤ c && c ≤ 'z') || ('0' ≤ c && c ≤ '9') || c == '-' || c == '_'

/-- Reads a part of a key. -/
def simpleKey? (cs : List Char) : Option (String × List Char) :=
  match cs with
  | '"' :: _ => lineString? cs
  | '\'' :: _ => lineString? cs
  | _ =>
    let (key, rest) := cs.span isBare
    if key = [] then none else some (.ofList key, rest)

/-- Reads the parts of a key, at most `room` of them, with blanks around each. -/
def key? : Nat → Reader (List String)
  | 0, _ => none
  | room + 1, cs => do
    let (part, rest) ← simpleKey? (skipGaps cs)
    match skipGaps rest with
    | '.' :: more => (key? room more).map fun (parts, rest) => (part :: parts, rest)
    | rest => return ([part], rest)

/-- Reads a key and the equals sign after it. -/
def keyOf? (cs : List Char) : Option (List String × List Char) := do
  let (key, rest) ← key? (maxDepth - 1) cs
  match rest with
  | '=' :: rest => some (key, skipGaps rest)
  | _ => none

/-- All parts of a key but the last one, and the last one. -/
def splitKey (key : List String) : List String × String := (key.dropLast, key.getLastD "")

/-! ## Values -/

/-- What follows a comment. -/
def skipComment (cs : List Char) : List Char := cs.dropWhile isPlain

/-- Passes over blanks, line breaks and comments; `room` bounds their number. -/
def skipLines : Nat → List Char → List Char
  | 0, cs => cs
  | room + 1, cs =>
    match skipGaps cs with
    | '#' :: rest => skipLines room (skipComment rest)
    | rest =>
      match newline? rest with
      | some rest => skipLines room rest
      | none => rest

mutual

/-- Reads a value that lies in `depth` arrays and inline tables; `room` bounds the steps left. -/
def value? : Nat → Nat → Reader Json
  | 0, _, _ => none
  | room + 1, depth, cs =>
    match cs with
    | '"' :: _ => (string? cs).map fun (s, rest) => (.string s, rest)
    | '\'' :: _ => (string? cs).map fun (s, rest) => (.string s, rest)
    | 't' :: 'r' :: 'u' :: 'e' :: rest => some (.bool true, rest)
    | 'f' :: 'a' :: 'l' :: 's' :: 'e' :: rest => some (.bool false, rest)
    | '[' :: rest =>
      if maxDepth ≤ depth + 1 then none
      else (items? room (depth + 1) rest).map fun (js, rest) => (.array js, rest)
    | '\x7b' :: rest =>
      if maxDepth ≤ depth + 1 then none
      else
        match skipGaps rest with
        | '\x7d' :: rest => some (.object [], rest)
        | rest =>
          (pairs? room (depth + 1) [] rest).map fun (ms, rest) => (.object (membersToJson ms), rest)
    | _ =>
      match moment? cs with
      | some r => some r
      | none => number? cs

/-- Reads the items of an array after its opening bracket; a comma may stand after the last one. -/
def items? : Nat → Nat → Reader (List Json)
  | 0, _, _ => none
  | room + 1, depth, cs =>
    match skipLines cs.length cs with
    | ']' :: rest => some ([], rest)
    | rest =>
      match value? room depth rest with
      | none => none
      | some (j, rest) =>
        match skipLines rest.length rest with
        | ']' :: rest => some ([j], rest)
        | ',' :: rest => (items? room depth rest).map fun (js, rest) => (j :: js, rest)
        | _ => none

/-- Reads the pairs of an inline table into it, up to its closing brace. -/
def pairs? : Nat → Nat → Members → Reader Members
  | 0, _, _, _ => none
  | room + 1, depth, ms, cs =>
    match keyOf? cs with
    | none => none
    | some (key, rest) =>
      match value? room depth rest with
      | none => none
      | some (j, rest) =>
        let (path, last) := splitKey key
        match Members.addDotted? .header path last j ms with
        | none => none
        | some ms =>
          match skipGaps rest with
          | '\x7d' :: rest => some (ms, rest)
          | ',' :: rest => pairs? room depth ms rest
          | _ => none

end

/-! ## Documents -/

/-- A document that is being read: the finished tables, and the table that lines are added to. -/
structure Draft where
  root : Members
  path : List String
  /-- The current table is one of several with the same header. -/
  repeated : Bool
  current : Members

namespace Draft

def start : Draft := ⟨[], [], false, []⟩

/-- Puts the current table under the last part of its path. -/
def close? (d : Draft) (last : String) (ms : Members) : Option Members :=
  match d.repeated, ms.lookup last with
  | false, _ => some (ms ++ [(last, .table .header d.current)])
  | true, none => some (ms ++ [(last, .tables d.current [])])
  | true, some (.tables l before) => some (ms.put last (.tables d.current (l :: before)))
  | true, some _ => none

/-- The whole document, the current table in its place. -/
def finish (d : Draft) : Option Members :=
  if d.path = [] then some d.current
  else
    let (parents, last) := splitKey d.path
    (Members.changeAt? (fun ms => (d.close? last ms).map fun ms => ((), ms)) parents d.root).map
      (·.2)

/-- Takes out of its parent the table that a header defines. One that was only implied so far keeps
what it has. -/
def takeTable? (last : String) (ms : Members) : Option (Members × Members) :=
  match ms.lookup last with
  | none => some ([], ms)
  | some (.table .implied inner) => some (inner, ms.without last)
  | some _ => none

/-- Starts the table of a header. -/
def openTable? (path : List String) (root : Members) : Option Draft :=
  let (parents, last) := splitKey path
  (Members.changeAt? (takeTable? last) parents root).map fun (inner, root) =>
    ⟨root, path, false, inner⟩

/-- Whether a repeated header may stand here. -/
def mayRepeat? (last : String) (ms : Members) : Option (Unit × Members) :=
  match ms.lookup last with
  | none => some ((), ms)
  | some (.tables _ _) => some ((), ms)
  | some _ => none

/-- Starts a table of a repeated header. -/
def openRepeated? (path : List String) (root : Members) : Option Draft :=
  let (parents, last) := splitKey path
  (Members.changeAt? (mayRepeat? last) parents root).map fun (_, root) => ⟨root, path, true, []⟩

/-- Adds a line with a key and a value to the current table. -/
def addPair? (d : Draft) (key : List String) (j : Json) : Option Draft :=
  let (path, last) := splitKey key
  (Members.addDotted? .header path last j d.current).map fun ms => { d with current := ms }

end Draft

/-- The end of a line: blanks, a comment, and a line break or the end of the text. -/
def lineEnd? (cs : List Char) : Option (List Char) :=
  let rest := match skipGaps cs with
    | '#' :: rest => skipComment rest
    | rest => rest
  match rest with
  | [] => some []
  | _ => newline? rest

/-- Reads a header after its opening brackets, with the given closing brackets. -/
def header? (closing : List Char) (cs : List Char) : Option (List String × List Char) := do
  let (key, rest) ← key? (maxDepth - 1) cs
  if closing.isPrefixOf rest then some (key, rest.drop closing.length) else none

/-- Reads the lines of a document, at most `room` of them. -/
def lines? : Nat → Draft → List Char → Option Members
  | 0, _, _ => none
  | room + 1, d, cs =>
    match skipGaps cs with
    | [] => d.finish
    | '[' :: '[' :: rest => do
      let (key, rest) ← header? [']', ']'] rest
      let rest ← lineEnd? rest
      lines? room (← Draft.openRepeated? key (← d.finish)) rest
    | '[' :: rest => do
      let (key, rest) ← header? [']'] rest
      let rest ← lineEnd? rest
      lines? room (← Draft.openTable? key (← d.finish)) rest
    | c :: rest =>
      if c = '#' ∨ c = '\n' ∨ c = '\r' then do
        let rest ← lineEnd? (c :: rest)
        lines? room d rest
      else do
        let (key, rest) ← keyOf? (c :: rest)
        let (j, rest) ← value? (2 * rest.length + 2) 0 rest
        let rest ← lineEnd? rest
        lines? room (← d.addPair? key j) rest

/-- The document that a text holds; a byte order mark at its start is passed over. -/
def ofText? (s : String) : Option Json :=
  let cs := match s.toList with
    | '\ufeff' :: rest => rest
    | cs => cs
  (lines? (cs.length + 1) .start cs).map fun ms => .object (membersToJson ms)

end AttributeRelease.Toml
