/-!
# Escaping

How a value is written inside a statement so that it cannot change the statement's structure. A
directory filter has a backslash before each of its own characters; an SQL literal has its quotes
doubled.
-/

namespace AttributeRelease

/-- A way to write values inside a statement. -/
inductive Escaping
  /-- Values are written as they are. -/
  | none
  /-- For directory filters. -/
  | filter
  /-- For SQL literals between single quotes. -/
  | sql
deriving DecidableEq, Repr

namespace Escaping

/-- A character of a value in a directory filter. -/
def filterChar (c : Char) : List Char :=
  if c = '\\' ∨ c = '*' ∨ c = '(' ∨ c = ')' then ['\\', c] else [c]

/-- A character of a value in an SQL literal. -/
def sqlChar (c : Char) : List Char := if c = '\'' then ['\'', '\''] else [c]

/-- How a character of a value is written. -/
def char : Escaping → Char → List Char
  | none, c => [c]
  | filter, c => filterChar c
  | sql, c => sqlChar c

/-- The characters of a value as they are written inside a statement. -/
def chars (e : Escaping) (cs : List Char) : List Char := cs.flatMap e.char

/-- A value as it is written inside a statement. -/
def apply (e : Escaping) (value : String) : String := String.ofList (e.chars value.toList)

/-- Characters are escaped one by one, whatever stands around them. -/
theorem chars_append (e : Escaping) (cs ds : List Char) :
    e.chars (cs ++ ds) = e.chars cs ++ e.chars ds := by
  simp [chars]

/-- Without escaping a value stays as it is. -/
theorem chars_none (cs : List Char) : Escaping.none.chars cs = cs := by
  induction cs with
  | nil => rfl
  | cons c rest ih => simpa [chars, char] using ih

end Escaping

end AttributeRelease
