import AttributeRelease.Json.Basic
import AttributeRelease.Number.Decimal
import AttributeRelease.Text.Utf8

/-!
# Data of templates

How templates look at their data: what counts as true, how a value is shown, when two values are
the same, and which of two is greater.
-/

namespace AttributeRelease.Json

open AttributeRelease.Number (Binary64)

/-! ## Numbers

Numbers are compared by their exact values. -/

/-- A finite number, in units of the least positive double precision number. -/
def exactValue (x : Binary64) : Int :=
  let magnitude : Int := x.significand * Int.pow 2 (x.scale + 1074).toNat
  if x.negative then -magnitude else magnitude

/-- A number in the same units; infinities lie beyond all finite numbers. -/
def Number.exactValue : Json.Number → Int
  | .natural n => n.toNat * Int.pow 2 1074
  | .negative n => n.toInt * Int.pow 2 1074
  | .double x => Json.exactValue x

/-- A number in double precision. -/
def Number.toBinary64 : Json.Number → Binary64
  | .natural n => .ofInt n.toNat
  | .negative n => .ofInt n.toInt
  | .double x => x

/-- Numbers are the same when they are of one kind and equal; both zeros are equal. -/
def Number.same : Json.Number → Json.Number → Bool
  | .natural m, .natural n => m == n
  | .negative m, .negative n => m == n
  | .double x, .double y => x == y || (x.isZero && y.isZero)
  | _, _ => false

/-- Compares numbers in double precision; those that are not a number cannot be compared. -/
def compareBinary64? (x y : Binary64) : Option Ordering :=
  if x.isNaN || y.isNaN then none
  else
    let key (z : Binary64) : Int :=
      if z.isInfinite then (if z.negative then -Int.pow 2 4000 else Int.pow 2 4000)
      else exactValue z
    some (compare (key x) (key y))

/-! ## Values -/

/-- What counts as true: everything but false, null, zero, and what is empty. -/
def isTruthy (includeZero : Bool) : Json → Bool
  | .bool b => b
  | .number (.natural n) => includeZero || n != 0
  | .number (.negative _) => true
  | .number (.double x) => includeZero || x.exponentBits != 0
  | .string s => s != ""
  | .array items => !items.isEmpty
  | .object members => !members.isEmpty
  | _ => false

mutual

/-- How a value is shown. -/
def shown : Json → List Char
  | .string s => s.toList
  | .bool true => "true".toList
  | .bool false => "false".toList
  | .number n => n.chars
  | .array [] => ['[', ']']
  | .array (j :: rest) => '[' :: j.shown ++ shownItems rest
  | .object _ => "[object]".toList
  | _ => []

/-- The items after the first one, and the end of the list. -/
def shownItems : List Json → List Char
  | [] => [']']
  | j :: rest => ',' :: ' ' :: j.shown ++ shownItems rest

end

mutual

/-- Whether two values are the same; members are compared in their order. -/
def same : Json → Json → Bool
  | .null, .null => true
  | .bool a, .bool b => a == b
  | .number m, .number n => m.same n
  | .string s, .string t => s == t
  | .array xs, .array ys => sameItems xs ys
  | .object ms, .object ns => sameMembers ms ns
  | _, _ => false

def sameItems : List Json → List Json → Bool
  | [], [] => true
  | x :: xs, y :: ys => x.same y && sameItems xs ys
  | _, _ => false

def sameMembers : List (String × Json) → List (String × Json) → Bool
  | [], [] => true
  | (k, x) :: xs, (l, y) :: ys => k == l && x.same y && sameMembers xs ys
  | _, _ => false

end

/-- Puts a member before the first one with a greater name, in place of one with its own name. -/
def putMember (name : String) (j : Json) : List (String × Json) → List (String × Json)
  | [] => [(name, j)]
  | (k, other) :: rest =>
    if name = k then (name, j) :: rest
    else if name < k then (name, j) :: (k, other) :: rest
    else (k, other) :: putMember name j rest

mutual

/-- A value with the members of objects in ascending order of their names; of repeated names the
last one counts. -/
def arranged : Json → Json
  | .array items => .array (arrangedItems items)
  | .object members => .object (arrangedMembers members [])
  | j => j

def arrangedItems : List Json → List Json
  | [] => []
  | j :: rest => j.arranged :: arrangedItems rest

def arrangedMembers : List (String × Json) → List (String × Json) → List (String × Json)
  | [], done => done
  | (k, j) :: rest, done => arrangedMembers rest (putMember k j.arranged done)

end

/-- Compares two values. Texts are compared character by character, a number and a text as numbers;
values of other kinds cannot be compared. -/
def compare? : Json → Json → Option Ordering
  | .number m, .number n => some (compare m.exactValue n.exactValue)
  | .string s, .string t => some (compare s t)
  | .bool a, .bool b => some (compare a b)
  | .number m, .string t => (Number.binary64? t).bind fun y => compareBinary64? m.toBinary64 y
  | .string s, .number n => (Number.binary64? s).bind fun x => compareBinary64? x n.toBinary64
  | _, _ => none

/-- How many items or members a value has, or of how many bytes a text is. -/
def size : Json → Nat
  | .array items => items.length
  | .object members => members.length
  | .string s => s.utf8ByteSize
  | _ => 0

end AttributeRelease.Json
