import AttributeRelease.Text.CharSet

/-!
# Patterns

What a pattern is made of: sets of characters and places between characters, in sequence, in
choice, and repeated. Groups are numbered, so that a match can say what each of them matched.
-/

namespace AttributeRelease.Pattern

open Text

/-- A place between two characters, or at an end of the text. -/
inductive Place
  | textStart
  | textEnd
  /-- The start of a line; with `returns`, a carriage return ends a line as well. -/
  | lineStart (returns : Bool)
  | lineEnd (returns : Bool)
  /-- Where a character of the set and another one meet. -/
  | edge (word : CharSet)
  | notEdge (word : CharSet)
  /-- Where a character of the set follows another one. -/
  | wordStart (word : CharSet)
  | wordEnd (word : CharSet)
  /-- Where no character of the set comes before. -/
  | afterWord (word : CharSet)
  /-- Where no character of the set follows. -/
  | beforeWord (word : CharSet)
deriving DecidableEq, Repr

namespace Place

/-- Whether a neighbour is a character of the set. -/
def within (word : CharSet) (c : Option Char) : Bool := c.any word.contains

/-- Whether a place lies between two neighbours, of which one is missing at an end of the text. -/
def between (before after : Option Char) : Place → Bool
  | textStart => before.isNone
  | textEnd => after.isNone
  | lineStart false => before.isNone || before == some '\n'
  | lineStart true =>
    before.isNone || before == some '\n' || (before == some '\r' && after != some '\n')
  | lineEnd false => after.isNone || after == some '\n'
  | lineEnd true =>
    after.isNone || after == some '\r' || (after == some '\n' && before != some '\r')
  | edge word => within word before != within word after
  | notEdge word => within word before == within word after
  | wordStart word => !within word before && within word after
  | wordEnd word => within word before && !within word after
  | afterWord word => !within word before
  | beforeWord word => !within word after

end Place

/-- The body of a pattern. -/
inductive Expr
  /-- Matches between any two characters. -/
  | empty
  | oneOf (set : CharSet)
  | place (p : Place)
  | seq (a b : Expr)
  /-- Tries the first before the second. -/
  | alt (a b : Expr)
  /-- At least `least` and at most `most` times; `greedy` asks for as many as possible. -/
  | times (body : Expr) (least : Nat) (most : Option Nat) (greedy : Bool)
  | group (index : Nat) (body : Expr)
deriving DecidableEq, Repr

namespace Expr

def char (c : Char) : Expr := oneOf (.singleton c.toNat)

/-- Expressions one after the other. -/
def sequence : List Expr → Expr
  | [] => empty
  | [e] => e
  | e :: rest => seq e (sequence rest)

/-- Expressions to choose from, the first ones before the later ones. -/
def choice : List Expr → Expr
  | [] => empty
  | [e] => e
  | e :: rest => alt e (choice rest)

/-- The room that a set takes in the automaton of a pattern. -/
def setCost (s : CharSet) : Nat :=
  if s.spans.all fun span => span.last < 128 then 32 else 32 + 68 * s.spans.length

/-- Whether an expression takes no characters. -/
def emptyOnly : Expr → Bool
  | empty => true
  | oneOf _ => false
  | place _ => true
  | seq a b => a.emptyOnly && b.emptyOnly
  | alt a b => a.emptyOnly && b.emptyOnly
  | times _ 0 (some 0) _ => true
  | times body _ _ _ => body.emptyOnly
  | group _ body => body.emptyOnly

/-- An expression that is repeated; one round is as good as many of what takes no characters. -/
def repeated (e : Expr) (least : Nat) (most : Option Nat) (greedy : Bool) : Expr :=
  if e.emptyOnly then times e (min least 1) (some (min (most.getD 1) 1)) greedy
  else times e least most greedy

/-- About the room, in bytes, that the automaton of an expression takes. -/
def cost : Expr → Nat
  | empty => 32
  | oneOf s => setCost s
  | place _ => 32
  | seq a b => a.cost + b.cost
  | alt a b => a.cost + b.cost + 32
  | times body least none _ => max 1 least * body.cost + 40
  | times body least (some most) _ => least * body.cost + (most - least) * (body.cost + 40) + 32
  | group _ body => body.cost + 64

/-- The greatest number of a group; what is matched no times at all has no groups. -/
def lastGroup : Expr → Nat
  | empty => 0
  | oneOf _ => 0
  | place _ => 0
  | seq a b => max a.lastGroup b.lastGroup
  | alt a b => max a.lastGroup b.lastGroup
  | times _ _ (some 0) _ => 0
  | times body _ _ _ => body.lastGroup
  | group index body => max index body.lastGroup

end Expr

end AttributeRelease.Pattern
