import AttributeRelease.Pattern.Basic

/-!
# Replacements

A replacement for matches can name groups: `$` and a name or a number stands for what the group
matched, where the longest run of letters, digits and underlines counts; braces set the name off
from what follows. `$$` stands for one dollar sign.
-/

namespace AttributeRelease.Pattern

open Text

/-- Whether a character can stand in the name of a group without braces. -/
def isReferenceChar (c : Char) : Bool := c.isAlphanum || c == '_'

/-- The number that a reference gives; it may have a plus sign, and has to fit into 64 bits. -/
def referenceNumber? (name : List Char) : Option Nat :=
  let digits := match name with
    | '+' :: rest => rest
    | name => name
  if digits.isEmpty || !digits.all Char.isDigit then none
  else
    let n := decimalValue digits
    if n < Nat.pow 2 64 then some n else none

/-- What a reference stands for in a match; a group that is unknown or did not match leaves
nothing. -/
def Match.reference (m : Match) (names : List (String × Nat)) (name : List Char) : List Char :=
  let index? := (referenceNumber? name).or
    ((names.find? (·.1 == String.ofList name)).map (·.2))
  (index?.bind m.group?).getD []

/-- The name of a reference after its dollar sign, and what follows it. -/
def takeReference? : List Char → Option (List Char × List Char)
  | '\x7b' :: rest =>
    match rest.dropWhile (· ≠ '\x7d') with
    | _ :: after => some (rest.takeWhile (· ≠ '\x7d'), after)
    | [] => none
  | cs =>
    match cs.takeWhile isReferenceChar with
    | [] => none
    | name => some (name, cs.dropWhile isReferenceChar)

/-- Writes out a replacement for a match. -/
def Match.expand (m : Match) (names : List (String × Nat)) : Nat → List Char → List Char
  | 0, cs => cs
  | _ + 1, [] => []
  | room + 1, '$' :: '$' :: rest => '$' :: m.expand names room rest
  | room + 1, '$' :: rest =>
    match takeReference? rest with
    | some (name, after) => m.reference names name ++ m.expand names room after
    | none => '$' :: m.expand names room rest
  | room + 1, c :: rest => c :: m.expand names room rest

/-- A text with its matches replaced. -/
def replaceMatches (names : List (String × Nat)) (replacement : List Char) :
    Cursor → List Match → List Char
  | c, [] => c.rest
  | c, m :: rest =>
    Match.textBetween c m.first ++ m.expand names replacement.length replacement ++
      replaceMatches names replacement m.last rest

/-- A text with every match of a pattern replaced. -/
def replaceAll (p : Pattern) (replacement text : String) : String :=
  String.ofList (replaceMatches p.names replacement.toList (.start text.toList)
    (p.matchesIn text))

end AttributeRelease.Pattern
