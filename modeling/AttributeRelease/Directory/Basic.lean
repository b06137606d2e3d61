import AttributeRelease.Attribute
import AttributeRelease.Resolution.Error
import AttributeRelease.Text.Blank

/-!
# Directories

What a directory offers: connections that can be opened, searched, checked and closed, and the
entries that a search finds. `κ` stands for the connections and `σ` for the state of the world that
they act on.
-/

namespace AttributeRelease

/-- A value of an attribute in a directory. -/
inductive DirectoryValue
  | text (s : String)
  | binary (bs : List UInt8)
deriving DecidableEq

/-- An entry of a directory, with one list of values for each name. -/
structure DirectoryEntry where
  dn : String
  attributes : List (String × List DirectoryValue)
deriving DecidableEq

namespace DirectoryEntry

/-- The values of an attribute: texts without white space at their ends, blank ones left out. -/
def attributeValues (values : List DirectoryValue) : List Value :=
  values.filterMap fun v =>
    match v with
    | .text s => if Text.trim s = "" then none else some (.string (Text.trim s))
    | .binary bs => some (.bytes bs)

/-- The attributes of an entry. -/
def toAttributes (e : DirectoryEntry) : AttributeMap :=
  e.attributes.map fun (name, values) =>
    (name, { id := name, values := attributeValues values })

end DirectoryEntry

/-- How connections to a directory are opened and used. -/
structure Directory (κ σ : Type) where
  create : σ → Except ResolutionError κ × σ
  connect : κ → σ → Except ResolutionError Unit × σ
  /-- Searches with a filter for the listed attributes, or for all if none are listed. -/
  search : κ → String → List String → σ → Except ResolutionError (List DirectoryEntry) × σ
  isValid : κ → σ → Bool × σ
  close : κ → σ → σ

end AttributeRelease
