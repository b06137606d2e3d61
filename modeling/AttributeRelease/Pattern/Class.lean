import AttributeRelease.Pattern.Expr
import AttributeRelease.Pattern.Property

/-!
# Classes of characters

What is known about characters where patterns are read, and the sets that a pattern can name:
digits, blanks, word characters, and the classes of ASCII characters.
-/

namespace AttributeRelease.Pattern

open Text

/-! ## Libraries -/

/-- What a library for patterns takes from its version of the Unicode standard, and its limits. -/
structure Library where
  /-- The set that stands between the braces of `\p{…}`. -/
  query? : List Char → Option CharSet
  digit : CharSet
  blank : CharSet
  word : CharSet
  /-- Whether a character can stand in the name of a group, as the first one or a later one. -/
  nameChar : Bool → Char → Bool
  /-- Adds all characters that differ from a member in case only. -/
  closeCase : CharSet → CharSet
  /-- How deep the parts of a pattern may lie in each other. -/
  nestLimit : Nat
  /-- The room, in bytes, that the automaton of a pattern takes. -/
  cost : Expr → Nat
  costLimit : Nat

namespace Library

/-- Whether a character can stand in the name of a group. -/
def isNameChar (first : Bool) (c : Char) : Bool :=
  c == '_' || Property.alphabetic.contains c ||
    (!first && (c == '.' || c == '[' || c == ']' || Derived.number.contains c))

/-- Version 15.0 of the standard, and the limits that nobody has to ask for. -/
def standard : Library where
  query? := Class.query?
  digit := Category.decimalDigit
  blank := Class.blank
  word := Class.word
  nameChar := isNameChar
  closeCase := CharSet.closeCase
  nestLimit := 250
  cost := Expr.cost
  costLimit := 10485760

end Library

/-! ## Flags -/

/-- Flags that change how a pattern is read, and the library that reads it. -/
structure Flags where
  ignoreCase : Bool := false
  /-- `^` and `$` match at lines. -/
  multiLine : Bool := false
  /-- A dot matches line ends. -/
  dotAll : Bool := false
  /-- Repetitions ask for as few as possible, and with `?` for as many as possible. -/
  swapGreed : Bool := false
  /-- Classes hold characters beyond ASCII. -/
  unicode : Bool := true
  /-- A carriage return ends a line as well. -/
  returns : Bool := false
  /-- Blanks and comments in the pattern are passed over. -/
  verbose : Bool := false
  library : Library := .standard

namespace Class

def asciiWord : CharSet := .ofTable ["30-39 41-5A 5F 61-7A"]
def asciiDigit : CharSet := .ofTable ["30-39"]
def asciiBlank : CharSet := .ofTable ["9-D 20"]

/-- The word characters under flags. -/
def wordFor (flags : Flags) : CharSet := if flags.unicode then flags.library.word else asciiWord

/-- All but the members of a set; without Unicode, of the single bytes. -/
def negate (flags : Flags) (s : CharSet) : CharSet :=
  if flags.unicode then s.complement else s.complement.inter (.range 0 0xFF)

/-- The ASCII letters that differ from a member of a set in case only. -/
def asciiCounterparts (s : CharSet) : CharSet :=
  .ofSpans ((List.range 26).flatMap fun i =>
    (if s.holds (0x41 + i) then [⟨0x61 + i, 0x61 + i⟩] else []) ++
      (if s.holds (0x61 + i) then [⟨0x41 + i, 0x41 + i⟩] else []))

/-- A set with the counterparts in the other case, if the flags ignore case. -/
def fold (flags : Flags) (s : CharSet) : CharSet :=
  if !flags.ignoreCase then s
  else if flags.unicode then flags.library.closeCase s
  else s.union (asciiCounterparts s)

/-- The class of an escape such as `\d`; an upper case letter stands for all other characters. -/
def shorthand? (flags : Flags) (c : Char) : Option CharSet :=
  let set? := match c.toLower with
    | 'd' => some (if flags.unicode then flags.library.digit else asciiDigit)
    | 's' => some (if flags.unicode then flags.library.blank else asciiBlank)
    | 'w' => some (wordFor flags)
    | _ => none
  set?.map fun set => if c.isUpper then negate flags set else set

/-- The ASCII class with a name. -/
def ascii? (name : String) : Option CharSet :=
  match name with
  | "alnum" => some (.ofTable ["30-39 41-5A 61-7A"])
  | "alpha" => some (.ofTable ["41-5A 61-7A"])
  | "ascii" => some (.ofTable ["0-7F"])
  | "blank" => some (.ofTable ["9 20"])
  | "cntrl" => some (.ofTable ["0-1F 7F"])
  | "digit" => some asciiDigit
  | "graph" => some (.ofTable ["21-7E"])
  | "lower" => some (.ofTable ["61-7A"])
  | "print" => some (.ofTable ["20-7E"])
  | "punct" => some (.ofTable ["21-2F 3A-40 5B-60 7B-7E"])
  | "space" => some asciiBlank
  | "upper" => some (.ofTable ["41-5A"])
  | "word" => some asciiWord
  | "xdigit" => some (.ofTable ["30-39 41-46 61-66"])
  | _ => none

end Class

end AttributeRelease.Pattern
