import AttributeRelease.Json.Parser
import AttributeRelease.Text.Pieces

/-!
# Numeric addresses

Hosts that are given by number: addresses of version 4, of which every part may be decimal, octal
or hexadecimal, and addresses of version 6 between brackets.
-/

namespace AttributeRelease.Url

open AttributeRelease.Number (digit?)

/-- The number that digits denote in a base, if they all are digits of it. -/
def inBase? (base : Nat) (cs : List Char) : Option Nat :=
  let add (n : Nat) (c : Char) : Option Nat := (Json.hex? c).bind fun d =>
    if d < base then some (base * n + d) else none
  cs.foldlM add 0

/-- A part of a version 4 address; a leading zero means octal and `0x` hexadecimal. -/
def part? (cs : List Char) : Option Nat :=
  match cs with
  | [] => none
  | '0' :: x :: rest =>
    if x = 'x' ∨ x = 'X' then inBase? 16 rest else inBase? 8 (x :: rest)
  | _ => inBase? 10 cs

/-- The parts of a host, without an empty last one. -/
def hostParts (host : List Char) : List (List Char) :=
  let parts := Text.pieces '.' host
  if parts.getLast? = some [] then parts.dropLast else parts

/-- A host is taken for a version 4 address when its last part is a number. -/
def endsInNumber (host : List Char) : Bool :=
  match (hostParts host).getLast? with
  | none => false
  | some last => (last ≠ [] && last.all fun c => (digit? c).isSome) || (part? last).isSome

/-- Whether a host is a version 4 address: up to four parts, the last of which fills what the others
leave. -/
def isAddress4 (host : List Char) : Bool :=
  let parts := hostParts host
  match parts.mapM part? with
  | none => false
  | some ns =>
    parts.length ≤ 4 && ns.dropLast.all (· ≤ 255) &&
      (match ns.getLast? with
        | none => false
        | some n => n < Nat.pow 256 (5 - parts.length))

/-- A decimal number below 256 without a leading zero. -/
def isOctet (cs : List Char) : Bool :=
  match inBase? 10 cs with
  | none => false
  | some n => cs ≠ [] && n ≤ 255 && (cs.length = 1 || cs.head? ≠ some '0')

/-- The pieces of a version 6 address from one on, of which `seen` came before; `short` tells
whether pieces were left out. The last two may be given as a version 4 address. -/
def pieces : Nat → Nat → Bool → List Char → Bool
  | _, seen, short, [] => if short then seen ≤ 8 else seen = 8
  | 0, _, _, _ => false
  | room + 1, seen, short, c :: rest =>
    if seen = 8 then false
    else if c = ':' then !short && pieces room (seen + 1) true rest
    else
      let cs := c :: rest
      let digits := (cs.take 4).takeWhile fun d => (Json.hex? d).isSome
      match cs.drop digits.length with
      | [] => pieces room (seen + 1) short []
      | ':' :: more => more ≠ [] && pieces room (seen + 1) short more
      | '.' :: _ =>
        let octets := Text.pieces '.' cs
        digits ≠ [] && seen ≤ 6 && octets.length = 4 && octets.all isOctet &&
          pieces room (seen + 2) short []
      | _ => false

/-- Whether characters are a version 6 address. -/
def isAddress6 (cs : List Char) : Bool :=
  match cs with
  | ':' :: ':' :: rest => pieces (rest.length + 2) 1 true rest
  | ':' :: _ => false
  | [_] => false
  | [] => false
  | _ => pieces (cs.length + 2) 0 false cs

end AttributeRelease.Url
