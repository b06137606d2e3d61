import AttributeRelease.Document.Value
import AttributeRelease.Part
import AttributeRelease.Sql.Connector

/-!
# Databases that are written down

A database whose answers to queries are known beforehand. It takes note of what it is asked.
-/

namespace AttributeRelease

/-- A database that is written down. -/
structure WrittenDatabase where
  rows : List (String × List SqlRow) := []
  /-- The rows for every other query. -/
  otherRows : List SqlRow := []
  /-- Why queries fail, if they do. -/
  fault : Option String := none
  /-- Why connections fail, if they do. -/
  down : Option String := none
  storedProcedures : Bool := false

namespace WrittenDatabase

variable {σ : Type}

def row (j : Json) : SqlRow :=
  j.items.filterMap fun cell =>
    match cell with
    | .array [name, v] => some (name.str, Document.sqlValue v)
    | _ => none

/-- Reads a database. One that is `plain` says nothing about stored procedures, and has none. -/
def ofDocument (j : Json) : WrittenDatabase where
  rows := (j.member "rows").members.map fun (q, rows) => (q, rows.items.map row)
  otherRows := (j.list "default_rows").map row
  fault := j.textAt? "error"
  down := j.textAt? "down"
  storedProcedures := j.flag "procedures" false && !j.flag "plain" false

/-- The options of a query as they are noted. -/
def optionsText (o : QuerySettings) : String :=
  let timeout := (o.timeoutMillis.map Nat.repr).getD "none"
  s!"timeout={timeout}|read_only={o.readOnly}|stored_procedure={o.storedProcedure}"

/-- Fails for a reason, if there is one. -/
def failing {α : Type} (reason : Option String) (a : α) : Except ResolutionError α :=
  match reason with
  | some e => .error (.database e)
  | none => .ok a

/-- The database in a part of the world; `note` takes note of what it is asked. -/
def database (part : Part σ WrittenDatabase) (storedProcedures : Bool) (note : String → σ → σ) :
    Database σ where
  query statement options s :=
    let s := note ("query:" ++ statement ++ "|" ++ optionsText options) s
    let d := part.get s
    (failing d.fault ((d.rows.lookup statement).getD d.otherRows), s)
  connect s := (failing (part.get s).down (), s)
  storedProcedures := storedProcedures

end WrittenDatabase

end AttributeRelease
