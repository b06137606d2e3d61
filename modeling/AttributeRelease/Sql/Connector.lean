import AttributeRelease.Settings.Basic
import AttributeRelease.Sql.Rows
import AttributeRelease.Statement.Connector

/-!
# Database connectors

A connector that asks a database. The template gives the query; the rows of its result become
attributes.
-/

namespace AttributeRelease

/-- How a database is asked. -/
structure Database (σ : Type) where
  query : String → QuerySettings → σ → Except ResolutionError (List SqlRow) × σ
  /-- Whether a connection can be had. -/
  connect : σ → Except ResolutionError Unit × σ
  storedProcedures : Bool

/-- How a connector asks a database. -/
structure DatabaseQuery (σ : Type) where
  settings : ConnectorSettings
  templates : Part σ Templates
  database : Database σ
  options : QuerySettings := {}
  columns : List Column := []
  /-- Whether it is a failure when there are no rows. -/
  emptyIsError : Bool := false
  cache : Option (CacheAccess σ) := none

namespace DatabaseQuery

variable {σ : Type}

def id (q : DatabaseQuery σ) : String := q.settings.plugin.id

/-- The attributes of rows. -/
def attributes (q : DatabaseQuery σ) (rows : List SqlRow) : Except ResolutionError AttributeMap :=
  if rows.isEmpty && q.emptyIsError then .error (.noResult q.id)
  else (Sql.attributes q.columns rows).mapError fun e => .dataConnector q.id e.message

/-- The attributes of the rows that a query has. -/
def ask (q : DatabaseQuery σ) (statement : String) (s : σ) :
    Except ResolutionError AttributeMap × σ :=
  match q.database.query statement q.options s with
  | (.error e, s) => (.error (.dataConnector q.id e.message), s)
  | (.ok rows, s) => (q.attributes rows, s)

/-- Whether the database can be asked as the options say. -/
def check (q : DatabaseQuery σ) (s : σ) : Except ResolutionError Unit × σ :=
  match q.database.connect s with
  | (.error e, s) => (.error (.invalidConfiguration q.id s!"unable to connect: {e.message}"), s)
  | (.ok (), s) =>
    if q.options.storedProcedure && !q.database.storedProcedures then
      (.error (.invalidConfiguration q.id "data source does not support stored procedures"), s)
    else (.ok (), s)

def inquiry (q : DatabaseQuery σ) : Inquiry σ where
  settings := q.settings
  templates := q.templates
  escaping := .sql
  statementOf text := text
  cache := q.cache
  ask := q.ask
  check := q.check

/-- Makes the connector, with a template for its queries. -/
def connector (q : DatabaseQuery σ) (template : String) (s : σ) :
    Except ResolutionError (Connector σ) × σ :=
  match Inquiry.registerTemplate q.settings q.templates template s with
  | (.error e, s) => (.error e, s)
  | (.ok (), s) => (.ok q.inquiry.connector, s)

end DatabaseQuery

end AttributeRelease
