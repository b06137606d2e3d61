import AttributeRelease.Number.Decimal

/-!
# Punycode

The ASCII form of a label with other characters: its ASCII characters, and then where the others
stand, as numbers with digits of varying weight.
-/

namespace AttributeRelease.Text.Punycode

/-- The value of a digit: letters come before decimal digits. -/
def digit? (c : Char) : Option Nat :=
  if 'a' ≤ c ∧ c ≤ 'z' then some (c.toNat - 97)
  else if 'A' ≤ c ∧ c ≤ 'Z' then some (c.toNat - 65)
  else if '0' ≤ c ∧ c ≤ '9' then some (c.toNat - 22)
  else none

/-- Divides a delta until it is small, counting the divisions by 36. -/
def damp : Nat → Nat → Nat → Nat
  | 0, k, delta => k + 36 * delta / (delta + 38)
  | room + 1, k, delta =>
    if 455 < delta then damp room (k + 36) (delta / 35) else k + 36 * delta / (delta + 38)

/-- The weight of the next number's digits. -/
def adapt (delta points : Nat) (first : Bool) : Nat :=
  let delta := if first then delta / 700 else delta / 2
  damp 40 0 (delta + delta / points)

/-- Reads one number; its digits end with one below the threshold of its place. -/
def number? (bias : Nat) : Nat → Nat → Nat → List Char → Option (Nat × List Char)
  | _, _, _, [] => none
  | k, weight, n, c :: rest =>
    match digit? c with
    | none => none
    | some d =>
      let n := n + d * weight
      let t := if k ≤ bias then 1 else min 26 (k - bias)
      if Nat.pow 2 32 ≤ n then none
      else if d < t then some (n, rest)
      else number? bias (k + 36) (weight * (36 - t)) n rest

/-- Inserts the characters that the numbers stand for; `room` bounds how many there are. A number
tells how far the next character is from the one before, in its code point `n` and its place `i`. -/
def insert? : Nat → Nat → Nat → Nat → List Nat → List Char → Option (List Nat)
  | _, _, _, _, out, [] => some out
  | 0, _, _, _, _, _ => none
  | room + 1, n, i, bias, out, cs =>
    match number? bias 36 1 0 cs with
    | none => none
    | some (delta, rest) =>
      let points := out.length + 1
      let position := i + delta
      let n := n + position / points
      let at' := position % points
      if 0x110000 ≤ n ∨ (0xD800 ≤ n ∧ n < 0xE000) then none
      else
        insert? room n (at' + 1) (adapt delta points (i = 0)) (out.insertIdx at' n) rest

/-- The characters that a label stands for, without its mark. -/
def decode? (cs : List Char) : Option (List Char) :=
  let before := (cs.reverse.dropWhile (· ≠ '-')).drop 1 |>.reverse
  let after := if cs.contains '-' then (cs.reverse.takeWhile (· ≠ '-')).reverse else cs
  let points := before.map Char.toNat
  (insert? cs.length 128 0 72 points after).map fun out => out.map Char.ofNat

end AttributeRelease.Text.Punycode
