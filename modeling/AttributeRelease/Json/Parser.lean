import AttributeRelease.Json.Basic
import AttributeRelease.Number.Decimal

/-!
# Reading JSON texts

A reader takes characters from the front and returns what it read and what is left. Texts are read
strictly, except that literals which denote nothing are kept as unreadable.
-/

namespace AttributeRelease.Json

open AttributeRelease.Number (Binary64 digit? spanDigits natOfDigits)

/-- The white space between the tokens of a text. -/
def isGap (c : Char) : Bool := c == ' ' || c == '\n' || c == '\t' || c == '\r'

def skip (cs : List Char) : List Char := cs.dropWhile isGap

/-! ## Numbers

A number is read as a significand of at most 64 bits, which is then scaled by a power of ten in
double precision. -/

/-- Appends digits to a significand while it stays below `2 ^ 64`; the digits that did not fit are
left. -/
def fitDigits (significand : Nat) : List Char → Nat × List Char
  | [] => (significand, [])
  | c :: rest =>
    let next := 10 * significand + (digit? c).getD 0
    if next < Nat.pow 2 64 then fitDigits next rest else (significand, c :: rest)

/-- Scales by a power of ten, in steps where the power itself is out of range; none where the
result is too large. The result is zero after three steps at the latest. -/
def scaleByTen : Nat → Binary64 → Int → Option Binary64
  | 0, _, _ => some (.zero false)
  | steps + 1, x, e =>
    if e.natAbs ≤ 308 then
      let power := Binary64.ofRatio false (Nat.pow 10 e.natAbs) 1
      if 0 ≤ e then
        let y := x.mul power
        if y.isFinite then some y else none
      else some (x.div power)
    else if x.isZero then some x
    else if 0 ≤ e then none
    else scaleByTen steps (x.div (.ofRatio false (Nat.pow 10 308) 1)) (e + 308)

/-- A scaled significand with its sign. -/
def scaled (negative : Bool) (significand : Nat) (e : Int) : Json :=
  match scaleByTen 4 (.ofInt significand) e with
  | none => .unreadable
  | some x => .number (.double (if negative then x.neg else x))

/-- The number with the given significand, scale and written exponent (its sign and digits). An
exponent that needs more than 32 bits is not computed. -/
def withExponent (negative : Bool) (significand : Nat) (e : Int) (minus : Bool)
    (digits : List Char) : Json :=
  let n := natOfDigits 0 digits
  if Nat.pow 2 31 ≤ n then
    if significand ≠ 0 ∧ !minus then .unreadable else .number (.double (.zero negative))
  else
    let total := if minus then e - n else e + n
    scaled negative significand (max (-Int.pow 2 31) (min (Int.pow 2 31 - 1) total))

/-- A whole number that fits into 64 bits stays whole; minus zero does not. -/
def wholeNumber (negative : Bool) (n : Nat) : Json :=
  if !negative then .number (.natural (UInt64.ofNat n))
  else if 0 < n ∧ n ≤ Nat.pow 2 63 then .number (.negative (Int64.ofInt (-(n : Int))))
  else .number (.double (Binary64.ofInt n).neg)

/-- The exponent at the front, if there is one: whether it is negative, and its digits. -/
def exponentPart? (cs : List Char) : Option (Option (Bool × List Char) × List Char) :=
  match cs with
  | c :: rest =>
    if c = 'e' ∨ c = 'E' then
      let (minus, rest) := match rest with
        | '-' :: more => (true, more)
        | '+' :: more => (false, more)
        | _ => (false, rest)
      let (ds, rest) := spanDigits rest
      if ds = [] then none else some (some (minus, ds), rest)
    else some (none, cs)
  | [] => some (none, [])

/-- The fraction at the front, if there is one. -/
def fractionPart? (cs : List Char) : Option (Option (List Char) × List Char) :=
  match cs with
  | '.' :: rest =>
    let (ds, rest) := spanDigits rest
    if ds = [] then none else some (some ds, rest)
  | _ => some (none, cs)

/-- What the parts of a number denote. -/
def numberOf (negative : Bool) (whole : List Char) (fraction : Option (List Char))
    (exponent : Option (Bool × List Char)) : Json :=
  let (significand, left) := fitDigits 0 whole
  let (significand, e) := match fraction with
    | none => (significand, (left.length : Int))
    | some ds =>
      let (s, unused) := fitDigits significand ds
      (s, (left.length : Int) - (ds.length - unused.length : Nat))
  match exponent, fraction, left with
  | some (minus, ds), _, _ => withExponent negative significand e minus ds
  | none, none, [] => wholeNumber negative significand
  | none, _, _ => scaled negative significand e

/-- Reads a number without its sign; a zero stands alone before the point. -/
def unsignedNumber? (negative : Bool) (cs : List Char) : Option (Json × List Char) := do
  let (whole, rest) := spanDigits cs
  if whole = [] ∨ (1 < whole.length ∧ whole.head? = some '0') then none
  let (fraction, rest) ← fractionPart? rest
  let (exponent, rest) ← exponentPart? rest
  return (numberOf negative whole fraction exponent, rest)

def number? (cs : List Char) : Option (Json × List Char) :=
  match cs with
  | '-' :: rest => unsignedNumber? true rest
  | _ => unsignedNumber? false cs

/-! ## Strings -/

/-- The value of a hexadecimal digit. -/
def hex? (c : Char) : Option Nat :=
  let n := c.toNat
  if 48 ≤ n ∧ n ≤ 57 then some (n - 48)
  else if 97 ≤ n ∧ n ≤ 102 then some (n - 87)
  else if 65 ≤ n ∧ n ≤ 70 then some (n - 55)
  else none

def hex4? (a b c d : Char) : Option Nat := do
  return ((← hex? a) * 4096 + (← hex? b) * 256 + (← hex? c) * 16 + (← hex? d))

/-- The characters that stand for another one after a backslash. -/
def shortEscape? (c : Char) : Option Char :=
  if c = '"' ∨ c = '\\' ∨ c = '/' then some c
  else if c = 'b' then some '\x08'
  else if c = 'f' then some '\x0c'
  else if c = 'n' then some '\n'
  else if c = 'r' then some '\r'
  else if c = 't' then some '\t'
  else none

/-- Puts a character before a string; nothing can be put before an unreadable one. -/
def before (c : Char) (r : Option (Option (List Char) × List Char)) :
    Option (Option (List Char) × List Char) :=
  r.map fun (s, rest) => (s.map (c :: ·), rest)

/-- A string of which a part denotes nothing. -/
def spoil (r : Option (Option (List Char) × List Char)) : Option (Option (List Char) × List Char) :=
  r.map fun (_, rest) => (none, rest)

/-- Reads a string after its opening quote. Surrogates written as escapes denote a character in
pairs only. -/
def stringBody? : List Char → Option (Option (List Char) × List Char)
  | [] => none
  | '"' :: rest => some (some [], rest)
  | '\\' :: 'u' :: a :: b :: c :: d :: '\\' :: 'u' :: e :: f :: g :: h :: rest =>
    match hex4? a b c d with
    | none => none
    | some n =>
      if 0xD800 ≤ n ∧ n < 0xDC00 then
        match hex4? e f g h with
        | none => none
        | some m =>
          if 0xDC00 ≤ m ∧ m < 0xE000 then
            before (Char.ofNat (0x10000 + (n - 0xD800) * 1024 + (m - 0xDC00))) (stringBody? rest)
          else spoil (stringBody? ('\\' :: 'u' :: e :: f :: g :: h :: rest))
      else if 0xDC00 ≤ n ∧ n < 0xE000 then
        spoil (stringBody? ('\\' :: 'u' :: e :: f :: g :: h :: rest))
      else before (Char.ofNat n) (stringBody? ('\\' :: 'u' :: e :: f :: g :: h :: rest))
  | '\\' :: 'u' :: a :: b :: c :: d :: rest =>
    match hex4? a b c d with
    | none => none
    | some n =>
      if 0xD800 ≤ n ∧ n < 0xE000 then spoil (stringBody? rest)
      else before (Char.ofNat n) (stringBody? rest)
  | '\\' :: c :: rest =>
    match shortEscape? c with
    | none => none
    | some c => before c (stringBody? rest)
  | c :: rest => if c = '\\' ∨ c.toNat < 32 then none else before c (stringBody? rest)

/-! ## Documents -/

mutual

/-- Reads a document; `room` bounds the steps that are left. -/
def value? : Nat → List Char → Option (Json × List Char)
  | 0, _ => none
  | room + 1, cs =>
    match skip cs with
    | 'n' :: 'u' :: 'l' :: 'l' :: rest => some (.null, rest)
    | 't' :: 'r' :: 'u' :: 'e' :: rest => some (.bool true, rest)
    | 'f' :: 'a' :: 'l' :: 's' :: 'e' :: rest => some (.bool false, rest)
    | '"' :: rest =>
      match stringBody? rest with
      | none => none
      | some (none, rest) => some (.unreadable, rest)
      | some (some s, rest) => some (.string (String.ofList s), rest)
    | '[' :: rest =>
      match skip rest with
      | ']' :: rest => some (.array [], rest)
      | rest => (items? room rest).map fun (js, rest) => (.array js, rest)
    | '\x7b' :: rest =>
      match skip rest with
      | '\x7d' :: rest => some (.object [], rest)
      | rest => (members? room rest).map fun (ms, rest) =>
        (match ms with
          | none => .unreadable
          | some ms => .object ms, rest)
    | rest => number? rest

/-- Reads one or more items and the end of the array. -/
def items? : Nat → List Char → Option (List Json × List Char)
  | 0, _ => none
  | room + 1, cs =>
    match value? room cs with
    | none => none
    | some (j, rest) =>
      match skip rest with
      | ']' :: rest => some ([j], rest)
      | ',' :: rest => (items? room rest).map fun (js, rest) => (j :: js, rest)
      | _ => none

/-- Reads one or more members and the end of the object. An object with a name that denotes nothing
has no members to look up. -/
def members? : Nat → List Char → Option (Option (List (String × Json)) × List Char)
  | 0, _ => none
  | room + 1, cs =>
    match skip cs with
    | '"' :: rest =>
      match stringBody? rest with
      | none => none
      | some (name, rest) =>
        match skip rest with
        | ':' :: rest =>
          match value? room rest with
          | none => none
          | some (j, rest) =>
            let one (ms : List (String × Json)) := name.map fun k => (String.ofList k, j) :: ms
            match skip rest with
            | '\x7d' :: rest => some (one [], rest)
            | ',' :: rest => (members? room rest).map fun (ms, rest) => (ms.bind one, rest)
            | _ => none
        | _ => none
    | _ => none

end

/-- The document that a text holds. -/
def ofText? (s : String) : Option Json :=
  let cs := s.toList
  match value? (2 * cs.length + 2) cs with
  | none => none
  | some (j, rest) => if skip rest = [] then some j else none

end AttributeRelease.Json
