/-!
# Sets of characters

A set of characters is a list of closed spans of code points, in ascending order and apart from
each other. The standard's property tables are written in this form, and character classes of
patterns are built with the operations below.
-/

namespace AttributeRelease.Text

/-- A closed span of code points. -/
structure Span where
  first : Nat
  last : Nat
deriving DecidableEq, Repr

/-- A span holds a code point that lies between its ends. -/
def Span.holds (s : Span) (n : Nat) : Bool := s.first ≤ n && n ≤ s.last

/-- A set of code points, as spans in ascending order that neither touch nor overlap. -/
structure CharSet where
  spans : List Span
deriving DecidableEq, Repr

namespace CharSet

/-- The last code point there is. -/
def lastCode : Nat := 0x10FFFF

def empty : CharSet := ⟨[]⟩

def all : CharSet := ⟨[⟨0, lastCode⟩]⟩

/-- Membership looks for a span that holds the code point. -/
def holds (s : CharSet) (n : Nat) : Bool := s.spans.any (·.holds n)

def contains (s : CharSet) (c : Char) : Bool := s.holds c.toNat

/-- Joins spans in ascending order of their first code points, where neighbours touch or overlap;
the first span may reach over many of those that follow. -/
def join (s : Span) : List Span → List Span
  | [] => [s]
  | t :: rest =>
    if t.first ≤ s.last + 1 then join ⟨s.first, max s.last t.last⟩ rest else s :: join t rest

/-- The set of the code points that some span of the list holds. -/
def ofSpans (spans : List Span) : CharSet :=
  match (spans.filter fun s => s.first ≤ s.last).mergeSort fun a b => a.first ≤ b.first with
  | [] => empty
  | s :: rest => ⟨join s rest⟩

def singleton (n : Nat) : CharSet := ⟨[⟨n, n⟩]⟩

def range (first last : Nat) : CharSet := ofSpans [⟨first, last⟩]

def ofChars (cs : List Char) : CharSet := ofSpans (cs.map fun c => ⟨c.toNat, c.toNat⟩)

def union (a b : CharSet) : CharSet := ofSpans (a.spans ++ b.spans)

/-- The gaps between ascending spans, from a code point on. -/
def gaps : Nat → List Span → List Span
  | low, [] => if low ≤ lastCode then [⟨low, lastCode⟩] else []
  | low, s :: rest =>
    if low < s.first then ⟨low, s.first - 1⟩ :: gaps (s.last + 1) rest else gaps (s.last + 1) rest

def complement (a : CharSet) : CharSet := ⟨gaps 0 a.spans⟩

def inter (a b : CharSet) : CharSet := (a.complement.union b.complement).complement

def diff (a b : CharSet) : CharSet := a.inter b.complement

def symmDiff (a b : CharSet) : CharSet := (a.union b).diff (a.inter b)

def isEmpty (a : CharSet) : Bool := a.spans.isEmpty

/-! ## Tables as text

A line of a table lists hexadecimal code points and spans such as `41-5A 61-7A AA`. -/

/-- The value of a hexadecimal digit. -/
def hexDigit? (c : Char) : Option Nat :=
  if '0' ≤ c ∧ c ≤ '9' then some (c.toNat - '0'.toNat)
  else if 'A' ≤ c ∧ c ≤ 'F' then some (c.toNat - 'A'.toNat + 10)
  else if 'a' ≤ c ∧ c ≤ 'f' then some (c.toNat - 'a'.toNat + 10)
  else none

/-- Reads a table: a blank ends a span, and a dash separates its two ends. -/
def readSpans : List Char → Nat → Option Nat → List Span → List Span
  | [], n, none, done => (⟨n, n⟩ :: done).reverse
  | [], n, some m, done => (⟨m, n⟩ :: done).reverse
  | ' ' :: rest, n, none, done => readSpans rest 0 none (⟨n, n⟩ :: done)
  | ' ' :: rest, n, some m, done => readSpans rest 0 none (⟨m, n⟩ :: done)
  | '-' :: rest, n, _, done => readSpans rest 0 (some n) done
  | c :: rest, n, m, done => readSpans rest (16 * n + (hexDigit? c).getD 0) m done

/-- The set that the lines of a table of ascending spans list. -/
def ofTable (lines : List String) : CharSet :=
  ⟨lines.flatMap fun line => readSpans line.toList 0 none []⟩

end CharSet

end AttributeRelease.Text
