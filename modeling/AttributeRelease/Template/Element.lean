import AttributeRelease.Json.Basic

/-!
# Templates

What a template is made of: text, places where a value is shown, blocks with a body that is shown
for every item of a list or under a condition, and other templates that are included.
-/

namespace AttributeRelease.Template

/-- Where a value is found in the data. -/
structure Path where
  /-- The path as it was written. -/
  raw : String
  /-- It starts at the whole data and not at the block's focus. -/
  fromRoot : Bool
  /-- It starts so many blocks further out. -/
  ups : Nat
  names : List String
deriving DecidableEq

/-- What a helper is given. -/
inductive Param
  | literal (j : Json)
  | path (p : Path)
  /-- A variable that a block sets, such as the index of an item. -/
  | variable (raw : String) (level : Nat) (name : String)
  /-- The result of another helper. -/
  | call (name : String) (params : List Param) (options : List (String × Param))

/-- A helper with what it is given; of options with one name the first counts. -/
structure Call where
  name : String
  params : List Param
  options : List (String × Param)

/-- A part of a template. -/
inductive Element
  | text (cs : List Char)
  /-- Shows a value. -/
  | show (p : Param)
  /-- Shows the result of a helper. -/
  | call (c : Call)
  /-- A helper with a body, names for what the body is shown for, and another body for when there
  is nothing. -/
  | block (c : Call) (names : List String) (body : List Element) (otherwise : Option (List Element))
  /-- Makes the body known as a template. -/
  | define (c : Call) (body : Option (List Element))
  /-- Includes a template; the body stands in where there is none. Lines after the first one are
  indented. -/
  | include (name : Param) (params : List Param) (options : List (String × Param))
    (indent : List Char) (body : Option (List Element))

instance : Inhabited Element := ⟨.text []⟩

end AttributeRelease.Template
