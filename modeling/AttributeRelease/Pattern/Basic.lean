import AttributeRelease.Pattern.Parser
import AttributeRelease.Pattern.Matching

/-!
# Patterns and their matches

A pattern is read from its text once. It is searched for from left to right: the first place from
which it matches counts, and there the preferred way to match.
-/

namespace AttributeRelease

/-- A pattern that was read. -/
structure Pattern where
  source : String
  body : Pattern.Expr
  /-- The names of groups, with their numbers. -/
  names : List (String × Nat)
deriving Repr

namespace Pattern

/-- Reads a pattern under flags, whatever room it takes. -/
def parse (flags : Flags) (source : String) : Except Error Pattern :=
  match read flags source.toList with
  | .error fault => .error (.malformed source fault)
  | .ok (body, names) => .ok ⟨source, body, names⟩

/-- Reads a pattern under flags. -/
def ofText (flags : Flags) (source : String) : Except Error Pattern := do
  let p ← parse flags source
  let limit := flags.library.costLimit
  if flags.library.cost p.body ≤ limit then .ok p else .error (.tooLarge limit)

/-- The greatest number of a group. -/
def groups (p : Pattern) : Nat := p.body.lastGroup

/-- The text of a pattern that has to match from end to end. -/
def anchored (source : String) : String := "^(?:" ++ source ++ ")$"

/-- A match: where it starts and ends, and what the groups matched. -/
structure Match where
  first : Cursor
  last : Cursor
  captured : List Captured
deriving Repr

namespace Match

/-- The text between two places. -/
def textBetween (first last : Cursor) : List Char :=
  first.rest.take (last.position - first.position)

/-- The text that was matched. -/
def text (m : Match) : List Char := textBetween m.first m.last

/-- What a group matched the last time; group 0 is the whole match. -/
def group? (m : Match) (index : Nat) : Option (List Char) :=
  if index = 0 then some m.text
  else (m.captured.find? (·.index == index)).map fun g => textBetween g.first g.last

end Match

/-- The preferred match that starts at a place. -/
def matchAt? (p : Pattern) (c : Cursor) : Option Match :=
  ((p.body.ways ⟨c, []⟩).head?).map fun w => ⟨c, w.cursor, w.captured⟩

/-- The first match from a place on; there are as many places as characters, and one more. -/
def findFrom? (p : Pattern) : Nat → Cursor → Option Match
  | 0, c => p.matchAt? c
  | room + 1, c =>
    match p.matchAt? c with
    | some m => some m
    | none => c.next?.bind (p.findFrom? room)

/-- The first match from a place on. -/
def find? (p : Pattern) (c : Cursor) : Option Match := p.findFrom? c.rest.length c

/-- The first match in a text. -/
def findIn? (p : Pattern) (text : String) : Option Match := p.find? (.start text.toList)

/-- Whether a text has a match. -/
def occursIn (p : Pattern) (text : String) : Bool := (p.findIn? text).isSome

/-- The matches from a place on that do not overlap, from left to right. An empty match is passed
over where the last match ended. -/
def matchesFrom (p : Pattern) : Nat → Option Nat → Cursor → List Match
  | 0, _, _ => []
  | room + 1, lastEnd, c =>
    match p.find? c with
    | none => []
    | some m =>
      if m.last.position = m.first.position ∧ lastEnd = some m.last.position then
        match c.next? with
        | some next => p.matchesFrom room lastEnd next
        | none => []
      else m :: p.matchesFrom room (some m.last.position) m.last

/-- All matches in a text, from left to right. -/
def matchesIn (p : Pattern) (text : String) : List Match :=
  p.matchesFrom (2 * text.length + 2) none (.start text.toList)

end Pattern

end AttributeRelease
