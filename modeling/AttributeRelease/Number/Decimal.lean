import AttributeRelease.Number.Binary64

/-!
# Reading numbers

Decimal numerals as texts: whole numbers with an optional sign, and numbers with a fraction and an
exponent. A numeral denotes the double precision number nearest to its value.
-/

namespace AttributeRelease.Number

/-- The value of a decimal digit. -/
def digit? (c : Char) : Option Nat :=
  if '0' ≤ c ∧ c ≤ '9' then some (c.toNat - '0'.toNat) else none

def isDigit (c : Char) : Bool := (digit? c).isSome

/-- The number that decimal digits denote, after a number read before them. -/
def natOfDigits (n : Nat) (cs : List Char) : Nat :=
  cs.foldl (fun n c => 10 * n + (digit? c).getD 0) n

/-- The longest run of digits at the front, and what follows it. -/
def spanDigits (cs : List Char) : List Char × List Char := cs.span isDigit

/-- A text of one or more decimal digits. -/
def nat? (cs : List Char) : Option Nat :=
  if cs ≠ [] ∧ cs.all isDigit then some (natOfDigits 0 cs) else none

/-- A text of decimal digits after an optional sign. -/
def int? (cs : List Char) : Option Int :=
  match cs with
  | '+' :: rest => (nat? rest).map Int.ofNat
  | '-' :: rest => (nat? rest).map fun n => -(n : Int)
  | _ => (nat? cs).map Int.ofNat

/-- A decimal numeral: its sign, the digits before and after the point as one number, how many of
them stood after the point, and the exponent. -/
structure Numeral where
  negative : Bool
  digits : Nat
  places : Nat
  exponent : Int
deriving DecidableEq, Repr

namespace Numeral

/-- The double precision number nearest to a numeral. Numerals whose first digit lies far outside
the range are not computed exactly. -/
def toBinary64 (n : Numeral) : Binary64 :=
  let e := n.exponent - n.places
  let size := ((Nat.toDigits 10 n.digits).length : Int)
  if n.digits = 0 then .zero n.negative
  else if 310 < size + e then .infinity n.negative
  else if size + e < -330 then .zero n.negative
  else if 0 ≤ e then .ofRatio n.negative (n.digits * Nat.pow 10 e.toNat) 1
  else .ofRatio n.negative n.digits (Nat.pow 10 (-e).toNat)

/-- The exponent part at the end of a numeral; none at all is the exponent zero. -/
def exponent? : List Char → Option Int
  | [] => some 0
  | c :: rest => if c = 'e' ∨ c = 'E' then int? rest else none

/-- Reads a numeral without a sign: digits with an optional point among, before or after them, of
which there is at least one, and an optional exponent. -/
def unsigned? (negative : Bool) (cs : List Char) : Option Numeral :=
  let (whole, rest) := spanDigits cs
  let (fraction, rest) := match rest with
    | '.' :: more => spanDigits more
    | _ => ([], rest)
  if whole = [] ∧ fraction = [] then none
  else (exponent? rest).map fun e =>
    ⟨negative, natOfDigits (natOfDigits 0 whole) fraction, fraction.length, e⟩

end Numeral

/-- The names of numbers that are not finite, in any case. -/
def special? (negative : Bool) (cs : List Char) : Option Binary64 :=
  let low := cs.map fun c => if 'A' ≤ c ∧ c ≤ 'Z' then Char.ofNat (c.toNat + 32) else c
  if low = "inf".toList ∨ low = "infinity".toList then some (.infinity negative)
  else if low = "nan".toList then some (.nan negative)
  else none

/-- Reads a number without a sign. -/
def unsignedBinary64? (negative : Bool) (cs : List Char) : Option Binary64 :=
  match special? negative cs with
  | some x => some x
  | none => (Numeral.unsigned? negative cs).map Numeral.toBinary64

/-- Reads a double precision number: a numeral or the name of a number that is not finite, after an
optional sign. -/
def binary64? (s : String) : Option Binary64 :=
  match s.toList with
  | '-' :: rest => unsignedBinary64? true rest
  | '+' :: rest => unsignedBinary64? false rest
  | cs => unsignedBinary64? false cs

/-- A 64 bit whole number from a text of digits after an optional sign. -/
def int64? (s : String) : Option Int64 :=
  (int? s.toList).bind fun n =>
    if -Int.pow 2 63 ≤ n ∧ n < Int.pow 2 63 then some (Int64.ofInt n) else none

end AttributeRelease.Number
