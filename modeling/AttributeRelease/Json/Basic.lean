import AttributeRelease.Number.Notation

/-!
# JSON documents

A document keeps the order and the repeats of its members. A literal that is well formed but denotes
nothing (a number beyond double precision, a string with an unpaired surrogate) is kept as
unreadable: it may be passed over, but nothing can be read from it.
-/

namespace AttributeRelease

open AttributeRelease.Number (Binary64)

/-- A JSON number: a 64 bit whole number where it is written as one, else a double precision
number. -/
inductive Json.Number
  | natural (n : UInt64)
  | negative (n : Int64)
  | double (x : Binary64)
deriving DecidableEq

/-- A JSON document. -/
inductive Json
  | null
  | bool (b : Bool)
  | number (n : Json.Number)
  | string (s : String)
  | array (items : List Json)
  | object (members : List (String × Json))
  | unreadable

namespace Json

/-- A whole number as a JSON number. -/
def ofInt64 (n : Int64) : Json :=
  if n.toInt < 0 then .number (.negative n) else .number (.natural (UInt64.ofNat n.toInt.toNat))

def ofNat (n : Nat) : Json := .number (.natural (UInt64.ofNat n))

/-- A text, or null where there is none. -/
def ofOption (s : Option String) : Json :=
  match s with
  | none => .null
  | some s => .string s

def ofStrings (ss : List String) : Json := .array (ss.map .string)

/-! ## Heights

The height of a document is the number of arrays and objects that its deepest part lies in. -/

mutual

/-- The height of a document. -/
def height : Json → Nat
  | .array items => 1 + heightItems items
  | .object members => 1 + heightMembers members
  | _ => 0

def heightItems : List Json → Nat
  | [] => 0
  | j :: rest => max j.height (heightItems rest)

def heightMembers : List (String × Json) → Nat
  | [] => 0
  | (_, j) :: rest => max j.height (heightMembers rest)

end

mutual

/-- Whether everything in a document denotes something. -/
def readable : Json → Bool
  | .array items => readableItems items
  | .object members => readableMembers members
  | .unreadable => false
  | _ => true

def readableItems : List Json → Bool
  | [] => true
  | j :: rest => j.readable && readableItems rest

def readableMembers : List (String × Json) → Bool
  | [] => true
  | (_, j) :: rest => j.readable && readableMembers rest

end

/-- How many arrays and objects may lie in each other. -/
def maxHeight : Nat := 127

/-- Whether a document that lies in `level` arrays and objects can be set aside and read later. -/
def canKeep (level : Nat) (j : Json) : Bool := j.readable && level + j.height ≤ maxHeight

/-! ## Texts -/

/-- The two hexadecimal digits of a number below 256. -/
def hexPair (n : Nat) : List Char :=
  let digit (d : Nat) : Char := if d < 10 then Char.ofNat (48 + d) else Char.ofNat (87 + d)
  [digit (n / 16), digit (n % 16)]

/-- How a character is written in a string. -/
def escapeChar (c : Char) : List Char :=
  if c = '"' then ['\\', '"']
  else if c = '\\' then ['\\', '\\']
  else if c = '\x08' then ['\\', 'b']
  else if c = '\x0c' then ['\\', 'f']
  else if c = '\n' then ['\\', 'n']
  else if c = '\r' then ['\\', 'r']
  else if c = '\t' then ['\\', 't']
  else if c.toNat < 32 then '\\' :: 'u' :: '0' :: '0' :: hexPair c.toNat
  else [c]

/-- A string between double quotes. -/
def stringChars (s : String) : List Char := '"' :: s.toList.flatMap escapeChar ++ ['"']

def Number.chars : Json.Number → List Char
  | .natural n => Nat.toDigits 10 n.toNat
  | .negative n => '-' :: Nat.toDigits 10 n.toInt.natAbs
  | .double x => x.jsonText.toList

mutual

/-- The compact text of a document. -/
def chars : Json → List Char
  | .null => "null".toList
  | .bool true => "true".toList
  | .bool false => "false".toList
  | .number n => n.chars
  | .string s => stringChars s
  | .array [] => ['[', ']']
  | .array (j :: rest) => '[' :: j.chars ++ itemChars rest
  | .object [] => ['\x7b', '\x7d']
  | .object ((k, j) :: rest) => '\x7b' :: stringChars k ++ ':' :: j.chars ++ memberChars rest
  | .unreadable => "null".toList

/-- The items after the first one, and the end of the array. -/
def itemChars : List Json → List Char
  | [] => [']']
  | j :: rest => ',' :: j.chars ++ itemChars rest

/-- The members after the first one, and the end of the object. -/
def memberChars : List (String × Json) → List Char
  | [] => ['\x7d']
  | (k, j) :: rest => ',' :: stringChars k ++ ':' :: j.chars ++ memberChars rest

end

/-- The compact text of a document. -/
def text (j : Json) : String := String.ofList j.chars

end Json

end AttributeRelease
