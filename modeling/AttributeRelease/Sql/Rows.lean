import AttributeRelease.Attribute
import AttributeRelease.Resolution.Error
import AttributeRelease.Sql.Coerce
import AttributeRelease.Text.Case

/-!
# Rows as attributes

The rows of a query result become attributes: a column that is described has an attribute and a type
of its own, and any other one gives values of their own types to the attribute of its name. Columns
are known by their lower case names. Null is no value, but the attribute is there.
-/

namespace AttributeRelease.Sql

/-- A value in a column does not have the declared type. -/
structure ColumnFailure where
  column : String
  cause : CoercionError
deriving DecidableEq

def ColumnFailure.message (e : ColumnFailure) : String :=
  s!"column '{e.column}': {(ResolutionError.database e.cause.message).message}"

/-- The description of a column; of several the last one counts. -/
def described? (columns : List Column) (name : String) : Option Column :=
  columns.reverse.find? fun c => Text.lowercase c.name == Text.lowercase name

/-- The attribute that a cell belongs to, and its value there. -/
def cell (columns : List Column) (name : String) (value : SqlValue) :
    Except ColumnFailure (String × Option Value) :=
  match described? columns name with
  | none => .ok (name, value.native?)
  | some c =>
    match c.type.coerce value with
    | .error cause => .error ⟨name, cause⟩
    | .ok v => .ok (c.attributeId, v)

/-- The cells of rows in order, up to the first one that fails. -/
def cells (columns : List Column) (rows : List SqlRow) :
    Except ColumnFailure (List (String × Option Value)) :=
  rows.flatten.mapM fun (name, value) => cell columns name value

/-- The attributes of rows. -/
def attributes (columns : List Column) (rows : List SqlRow) : Except ColumnFailure AttributeMap :=
  (cells columns rows).map fun cells =>
    cells.foldl (fun (m : AttributeMap) (c : String × Option Value) => m.append c.1 c.2.toList) []

end AttributeRelease.Sql
