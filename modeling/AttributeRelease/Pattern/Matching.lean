import AttributeRelease.Pattern.Expr

/-!
# Matching

An expression is tried at a place of a text and leads to the places where it can end. They are
listed in order of preference: the first branch of a choice comes before the second, and a
repetition's greed decides whether one more round comes before leaving it. What follows a place
does not depend on how it was reached, so only the first way to every place is kept.
-/

namespace AttributeRelease.Pattern

/-- A place in a text: how many characters lie before it, the last of them, and those after it. -/
structure Cursor where
  position : Nat
  before : Option Char
  rest : List Char
deriving DecidableEq, Repr

namespace Cursor

/-- The start of a text. -/
def start (cs : List Char) : Cursor := ⟨0, none, cs⟩

/-- The place after the next character. -/
def next? (c : Cursor) : Option Cursor :=
  match c.rest with
  | [] => none
  | x :: rest => some ⟨c.position + 1, some x, rest⟩

end Cursor

/-- What a group matched: its number, where it started and where it ended. -/
structure Captured where
  index : Nat
  first : Cursor
  last : Cursor
deriving DecidableEq, Repr

/-- A way to match: where it ends, and what the groups matched, the latest first. -/
structure Way where
  cursor : Cursor
  captured : List Captured
deriving DecidableEq, Repr

namespace Way

/-- Adds a way unless one to the same place is known. Ways are listed in reverse. -/
def add (w : Way) (found : List Way) : List Way :=
  if found.any (·.cursor.position == w.cursor.position) then found else w :: found

/-- The first way to every place. -/
def firsts (ways : List Way) : List Way :=
  (ways.foldl (fun found w => w.add found) []).reverse

/-- The ways that follow those of a list. -/
def andThen (ways : List Way) (f : Way → List Way) : List Way := firsts (ways.flatMap f)

/-- Goes on a fixed number of times. -/
def repeated (f : Way → List Way) : Nat → Way → List Way
  | 0, w => [w]
  | n + 1, w => andThen (f w) (repeated f n)

/-- Goes on any number of times up to a bound. -/
def upTo (f : Way → List Way) (greedy : Bool) : Nat → Way → List Way
  | 0, w => [w]
  | n + 1, w =>
    let more := andThen (f w) (upTo f greedy n)
    firsts (if greedy then more ++ [w] else w :: more)

/-- Goes on once or more often, with the ways found so far in reverse and the places that were
gone on from. From each place rounds are started only once; later rounds from it could only lead
to places that are known. Places from which a round is started inside another round lie further
on, which bounds the depth. -/
def rounds (f : Way → List Way) (greedy : Bool) :
    Nat → Way → List Way × List Nat → List Way × List Nat
  | 0, _, state => state
  | room + 1, w, (found, started) =>
    if started.contains w.cursor.position then (found, started)
    else
      (f w).foldl
        (fun (found, started) next =>
          if greedy then
            let (found, started) := rounds f greedy room next (found, started)
            (next.add found, started)
          else rounds f greedy room next (next.add found, started))
        (found, w.cursor.position :: started)

/-- Goes on once or more often. -/
def onceOrMore (f : Way → List Way) (greedy : Bool) (w : Way) : List Way :=
  (rounds f greedy (w.cursor.rest.length + 2) w ([], [])).1.reverse

/-- Goes on at least a number of times. -/
def atLeast (f : Way → List Way) (greedy : Bool) : Nat → Way → List Way
  | 0, w =>
    let more := onceOrMore f greedy w
    firsts (if greedy then more ++ [w] else w :: more)
  | n + 1, w => andThen (repeated f n w) (onceOrMore f greedy)

end Way

namespace Expr

/-- The ways in which an expression matches from a place on, the preferred one first. -/
def ways : Expr → Way → List Way
  | empty, w => [w]
  | oneOf set, w =>
    match w.cursor.rest, w.cursor.next? with
    | c :: _, some next => if set.contains c then [{ w with cursor := next }] else []
    | _, _ => []
  | place p, w => if p.between w.cursor.before w.cursor.rest.head? then [w] else []
  | seq a b, w => Way.andThen (a.ways w) b.ways
  | alt a b, w => Way.firsts (a.ways w ++ b.ways w)
  | times body least none greedy, w => Way.atLeast body.ways greedy least w
  | times body least (some most) greedy, w =>
    Way.andThen (Way.repeated body.ways least w) (Way.upTo body.ways greedy (most - least))
  | group index body, w =>
    (body.ways w).map fun last =>
      { last with captured := ⟨index, w.cursor, last.cursor⟩ :: last.captured }

end Expr

end AttributeRelease.Pattern
