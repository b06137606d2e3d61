import AttributeRelease.Json.Record

/-!
# Looking into documents

Members and items of documents whose form is known. What is missing or has another form is taken to
be empty.
-/

namespace AttributeRelease.Json

/-- A member of an object; of repeated ones the first counts. -/
def member? (j : Json) (name : String) : Option Json :=
  match j with
  | .object members => members.lookup name
  | _ => none

def member (j : Json) (name : String) : Json := (j.member? name).getD .null

/-- A member that is there and not null. -/
def given? (j : Json) (name : String) : Option Json :=
  match j.member? name with
  | some .null => none
  | found => found

/-- The items of an array. -/
def items : Json → List Json
  | .array items => items
  | _ => []

/-- The members of an object. -/
def members : Json → List (String × Json)
  | .object members => members
  | _ => []

/-- A text. -/
def str (j : Json) : String := j.asString?.getD ""

/-- The texts in an array. -/
def strs (j : Json) : List String := j.items.map str

/-- A number. -/
def nat (j : Json) : Nat := j.asNat?.getD 0

/-- The items of a member. -/
def list (j : Json) (name : String) : List Json := (j.member name).items

/-- A member that is a text. -/
def textAt? (j : Json) (name : String) : Option String := (j.member name).asString?

/-- A member that is a text. -/
def textAt (j : Json) (name : String) : String := (j.member name).str

/-- A member that is true or false, or what stands for it when it is missing. -/
def flag (j : Json) (name : String) (missing : Bool) : Bool :=
  (j.member name).asBool?.getD missing

end AttributeRelease.Json
