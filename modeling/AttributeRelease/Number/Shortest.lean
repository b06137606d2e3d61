import AttributeRelease.Number.Binary64

/-!
# Shortest digits

The fewest decimal digits that read back as a given double precision number. Of the decimal grids
with 1, 2, … 17 digits the first one with a point that rounds to the number is taken, and on it the
point nearest to the number.
-/

namespace AttributeRelease.Number

/-- Decimal digits `digits · 10 ^ exponent`. -/
structure Digits where
  digits : Nat
  exponent : Int
deriving DecidableEq, Repr

/-- Powers of ten with an exponent of any sign, as a ratio. -/
def powerOfTen (e : Int) : Nat × Nat :=
  if 0 ≤ e then (Nat.pow 10 e.toNat, 1) else (1, Nat.pow 10 (-e).toNat)

/-- Whether `d · 10 ^ e` lies between `lo / den` and `hi / den`, the ends included or not. -/
def liesBetween (lo hi den : Nat) (ends : Bool) (d : Nat) (e : Int) : Bool :=
  let (p, r) := powerOfTen e
  let x := d * p * den
  if ends then lo * r ≤ x && x ≤ hi * r else lo * r < x && x < hi * r

/-- The number of decimal digits of a number, zero having one. -/
def digitCount (n : Nat) : Nat := (Nat.toDigits 10 n).length

/-- The decimal exponent of a positive ratio: the greatest `e` with `10 ^ e ≤ num / den`. -/
def decimalExponent (num den : Nat) : Int :=
  let guess : Int :=
    if den ≤ num then (digitCount (num / den) : Int) - 1 else -(digitCount (den / num) : Int)
  let (p, r) := powerOfTen (guess + 1)
  if p * den ≤ num * r then guess + 1 else guess

/-- Tries the grids from `count` digits on, at most `room` of them: of the value's two neighbours
on a grid the nearer one that rounds to the value is taken, of two equally near ones the even. -/
def shortestFrom (num den lo hi half : Nat) (ends : Bool) (top : Int) : Nat → Nat → Digits
  | 0, count => ⟨0, top - count⟩
  | room + 1, count =>
    let e := top - count + 1
    let (p, r) := powerOfTen e
    let d := num * r / (p * den)
    let rest := num * r % (p * den)
    let low := liesBetween lo hi half ends d e
    let high := liesBetween lo hi half ends (d + 1) e
    let nearHigh := p * den < 2 * rest ∨ (2 * rest = p * den ∧ d % 2 = 1)
    if low && high then ⟨if nearHigh then d + 1 else d, e⟩
    else if low then ⟨d, e⟩
    else if high then ⟨d + 1, e⟩
    else shortestFrom num den lo hi half ends top room (count + 1)

/-- Drops the zeros at the end of digits. -/
def Digits.strip : Nat → Digits → Digits
  | 0, d => d
  | n + 1, d =>
    if d.digits ≠ 0 ∧ d.digits % 10 = 0 then strip n ⟨d.digits / 10, d.exponent + 1⟩ else d

/-- The shortest digits that read back as a finite number other than zero. -/
def Binary64.shortest (x : Binary64) : Digits :=
  let m := x.significand
  let q := x.scale
  let closeBelow : Bool := x.fractionBits = 0 ∧ 1 < x.exponentBits
  -- In units of a quarter of the last place: the number, and the ends of what rounds to it.
  let (num, den) := scaleRatio (4 * m) 1 (2 - q)
  let (lo, _) := scaleRatio (4 * m - if closeBelow then 1 else 2) 1 (2 - q)
  let (hi, _) := scaleRatio (4 * m + 2) 1 (2 - q)
  (shortestFrom num den lo hi den (m % 2 = 0) (decimalExponent num den) 17 1).strip 20

end AttributeRelease.Number
