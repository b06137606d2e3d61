import AttributeRelease.Number.Shortest

/-!
# Writing numbers

Finite numbers are written with the shortest digits that read back. Where positional notation ends
and how an exponent looks is one record per use.
-/

namespace AttributeRelease.Number

/-- How finite numbers are written. -/
structure Style where
  /-- The decimal exponents (of the first digit) that are written positionally. -/
  positional : Int → Bool
  /-- A whole number shows a zero after the point. -/
  pointZero : Bool
  /-- A positive exponent shows its sign. -/
  plusSign : Bool

/-- For people: always positional, without a point where none is needed. -/
def Style.plain : Style := ⟨fun _ => true, false, false⟩

/-- For messages: positional from `10 ^ -4` up to `10 ^ 16`, always with a point or an exponent. -/
def Style.message : Style := ⟨fun e => -4 ≤ e && e < 16, true, false⟩

/-- For JSON: positional from `10 ^ -5` up to `10 ^ 16`, positive exponents with a sign. -/
def Style.json : Style := ⟨fun e => -5 ≤ e && e < 16, true, true⟩

def decimalDigits (n : Nat) : List Char := Nat.toDigits 10 n

/-- Digits in positional notation. -/
def Digits.positional (d : Digits) (pointZero : Bool) : List Char :=
  let ds := decimalDigits d.digits
  if 0 ≤ d.exponent then
    ds ++ List.replicate d.exponent.toNat '0' ++ (if pointZero then ['.', '0'] else [])
  else
    let places := (-d.exponent).toNat
    if places < ds.length then
      ds.take (ds.length - places) ++ '.' :: ds.drop (ds.length - places)
    else '0' :: '.' :: (List.replicate (places - ds.length) '0' ++ ds)

/-- Digits with an exponent, one digit standing before the point. -/
def Digits.scientific (d : Digits) (plusSign : Bool) : List Char :=
  let ds := decimalDigits d.digits
  let e := d.exponent + (ds.length : Int) - 1
  let mantissa :=
    match ds with
    | [] => ['0']
    | c :: [] => [c]
    | c :: more => c :: '.' :: more
  mantissa ++ 'e' :: (if e < 0 then '-' :: decimalDigits e.natAbs
    else (if plusSign then ['+'] else []) ++ decimalDigits e.natAbs)

/-- Writes a number; what is no finite number has a name. -/
def Style.write (s : Style) (x : Binary64) : List Char :=
  let sign := if x.negative then ['-'] else []
  if x.isNaN then "NaN".toList
  else if x.isInfinite then sign ++ "inf".toList
  else if x.isZero then sign ++ (if s.pointZero then "0.0".toList else ['0'])
  else
    let d := x.shortest
    let e := d.exponent + ((decimalDigits d.digits).length : Int) - 1
    sign ++ if s.positional e then d.positional s.pointZero else d.scientific s.plusSign

/-- The text of a number for people. -/
def Binary64.text (x : Binary64) : String := String.ofList (Style.plain.write x)

/-- The text of a number in messages. -/
def Binary64.debugText (x : Binary64) : String := String.ofList (Style.message.write x)

/-- The text of a number in JSON, which has no names for numbers that are not finite. -/
def Binary64.jsonText (x : Binary64) : String :=
  if x.isFinite then String.ofList (Style.json.write x) else "null"

/-- The sixteen hexadecimal digits of a number's bits. -/
def Binary64.hexText (x : Binary64) : String :=
  let ds := Nat.toDigits 16 x.bits.toNat
  String.ofList (List.replicate (16 - ds.length) '0' ++ ds)

end AttributeRelease.Number
