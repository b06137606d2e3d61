/-!
# Durations

Spans of time in nanoseconds, and their texts in messages.
-/

namespace AttributeRelease

/-- A span of time. -/
structure Duration where
  nanos : Nat
deriving DecidableEq, Repr

namespace Duration

def ofMillis (n : Nat) : Duration := ⟨n * 1000000⟩

def ofSeconds (n : Nat) : Duration := ⟨n * 1000000000⟩

/-- The whole milliseconds of a duration. -/
def millis (d : Duration) : Nat := d.nanos / 1000000

/-- The digits of a fraction below `10 ^ width`, without the zeros at its end. -/
def fractionDigits (width n : Nat) : List Char :=
  let ds := Nat.toDigits 10 n
  let filled := List.replicate (width - ds.length) '0' ++ ds
  (filled.reverse.dropWhile (· == '0')).reverse

/-- A number of units of `10 ^ width` nanoseconds, with a fraction where there is one. -/
def inUnits (width nanos : Nat) (unit : String) : String :=
  let whole := nanos / Nat.pow 10 width
  let part := nanos % Nat.pow 10 width
  let fraction := if part = 0 then [] else '.' :: fractionDigits width part
  String.ofList (Nat.toDigits 10 whole ++ fraction) ++ unit

/-- The text of a duration in messages, in the largest unit of which there is at least one. -/
def debug (d : Duration) : String :=
  if Nat.pow 10 9 ≤ d.nanos then inUnits 9 d.nanos "s"
  else if Nat.pow 10 6 ≤ d.nanos then inUnits 6 d.nanos "ms"
  else if Nat.pow 10 3 ≤ d.nanos then inUnits 3 d.nanos "µs"
  else inUnits 0 d.nanos "ns"

end Duration

end AttributeRelease
