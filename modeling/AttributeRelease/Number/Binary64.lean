/-!
# Double precision numbers

A double precision number is kept as its 64 bits, so two of them are equal when their bits are. A
finite number is `m · 2 ^ q`; a ratio is rounded to the nearest number, and of two equally near
ones to that with an even significand.
-/

namespace AttributeRelease.Number

/-- A double precision number as its 64 bits. -/
structure Binary64 where
  bits : UInt64
deriving DecidableEq, Repr

namespace Binary64

/-- The sign bit. -/
def negative (x : Binary64) : Bool := x.bits.toNat / Nat.pow 2 63 == 1

/-- The eleven bits of the exponent. -/
def exponentBits (x : Binary64) : Nat := x.bits.toNat / Nat.pow 2 52 % Nat.pow 2 11

/-- The lowest 52 bits. -/
def fractionBits (x : Binary64) : Nat := x.bits.toNat % Nat.pow 2 52

def isFinite (x : Binary64) : Bool := x.exponentBits != 2047

def isInfinite (x : Binary64) : Bool := x.exponentBits == 2047 && x.fractionBits == 0

def isNaN (x : Binary64) : Bool := x.exponentBits == 2047 && x.fractionBits != 0

/-- The significand `m` of a finite number `m · 2 ^ q`. -/
def significand (x : Binary64) : Nat :=
  if x.exponentBits = 0 then x.fractionBits else Nat.pow 2 52 + x.fractionBits

/-- The scale `q` of a finite number `m · 2 ^ q`. -/
def scale (x : Binary64) : Int := (max x.exponentBits 1 : Int) - 1075

def isZero (x : Binary64) : Bool := x.exponentBits == 0 && x.fractionBits == 0

/-- The number with the given sign and the given 63 lower bits. -/
def ofSignBits (negative : Bool) (low : Nat) : Binary64 :=
  ⟨UInt64.ofNat ((if negative then Nat.pow 2 63 else 0) + low)⟩

def zero (negative : Bool) : Binary64 := ofSignBits negative 0

def infinity (negative : Bool) : Binary64 := ofSignBits negative (2047 * Nat.pow 2 52)

/-- The quiet not-a-number. -/
def nan (negative : Bool) : Binary64 := ofSignBits negative (2047 * Nat.pow 2 52 + Nat.pow 2 51)

end Binary64

/-- The quotient rounded to the nearest whole number, a half to the even neighbour. -/
def roundHalfEven (num den : Nat) : Nat :=
  let m := num / den
  let r := num % den
  if den < 2 * r ∨ (2 * r = den ∧ m % 2 = 1) then m + 1 else m

/-- A ratio over a power of two, as a ratio. -/
def scaleRatio (num den : Nat) (q : Int) : Nat × Nat :=
  if 0 ≤ q then (num, den * Nat.pow 2 q.toNat) else (num * Nat.pow 2 (-q).toNat, den)

/-- Rounds a positive ratio to `m · 2 ^ q` with at most `precision` bits in `m` and no scale below
`least`; the answer is `(m, q)`. When all digits carry, `m` is a power of two with one bit more. -/
def roundRatio (precision : Nat) (least : Int) (num den : Nat) : Nat × Int :=
  let guess := max least ((Nat.log2 num : Int) - Nat.log2 den - (precision - 1))
  let (n, d) := scaleRatio num den guess
  let q := if n / d < Nat.pow 2 (precision - 1) ∧ least < guess then guess - 1 else guess
  let (n, d) := scaleRatio num den q
  (roundHalfEven n d, q)

namespace Binary64

/-- The number nearest to a ratio, infinite where it is too large. -/
def ofRatio (negative : Bool) (num den : Nat) : Binary64 :=
  if num = 0 then zero negative
  else
    let (m, q) := roundRatio 53 (-1074) num den
    let low := (q + 1074).toNat * Nat.pow 2 52 + m
    if 2047 * Nat.pow 2 52 ≤ low then infinity negative else ofSignBits negative low

/-- The number nearest to `m · 2 ^ q`. -/
def ofScaled (negative : Bool) (m : Nat) (q : Int) : Binary64 :=
  if 0 ≤ q then ofRatio negative (m * Nat.pow 2 q.toNat) 1
  else ofRatio negative m (Nat.pow 2 (-q).toNat)

/-- The number nearest to a whole number. -/
def ofInt (n : Int) : Binary64 := ofRatio (n < 0) n.natAbs 1

/-- A number rounded to single precision; what is no finite number stays as it is. -/
def toSingle (x : Binary64) : Binary64 :=
  if !x.isFinite || x.isZero then x
  else
    let (n, d) := scaleRatio x.significand 1 (-x.scale)
    let (m, q) := roundRatio 24 (-149) n d
    if Nat.pow 2 24 ≤ m ∧ 104 ≤ q + 1 ∨ 104 < q then infinity x.negative
    else ofScaled x.negative m q

/-- The product of two finite numbers. -/
def mul (x y : Binary64) : Binary64 :=
  ofScaled (x.negative != y.negative) (x.significand * y.significand) (x.scale + y.scale)

/-- The quotient of a finite number and a finite number other than zero. -/
def div (x y : Binary64) : Binary64 :=
  let (n, d) := scaleRatio x.significand y.significand (y.scale - x.scale)
  ofRatio (x.negative != y.negative) n d

def neg (x : Binary64) : Binary64 := ofSignBits (!x.negative) (x.bits.toNat % Nat.pow 2 63)

end Binary64

end AttributeRelease.Number
