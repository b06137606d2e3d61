import AttributeRelease.Pool.Strategy
import AttributeRelease.Statement.Connector

/-!
# Directory connectors

A connector that searches a directory. The template gives the filter; the attributes are those of
the first entry that is found.
-/

namespace AttributeRelease

/-- How a connector searches a directory. -/
structure DirectorySearch (κ σ : Type) where
  settings : ConnectorSettings
  templates : Part σ Templates
  directory : Directory κ σ
  connections : Part σ (Connections κ)
  /-- Reads the time in nanoseconds. -/
  clock : σ → Nat × σ
  /-- The attributes that the directory is asked for; without any, all are. -/
  returned : List String := []
  /-- Whether it is a failure when there are no entries. -/
  emptyIsError : Bool := false
  cache : Option (CacheAccess σ) := none

namespace DirectorySearch

variable {κ σ α : Type}

def id (d : DirectorySearch κ σ) : String := d.settings.plugin.id

/-- Gives a connection back. -/
def giveBack (d : DirectorySearch κ σ) (lease : Pool.Lease κ) (s : σ) : σ :=
  let (now, s) := d.clock s
  let (connections, s) := (d.connections.get s).checkin d.directory now lease s
  d.connections.set connections s

/-- Uses a connection and gives it back. -/
def withConnection (d : DirectorySearch κ σ) (use : κ → σ → α × σ) (s : σ) :
    Except Pool.Failure α × σ :=
  match (d.connections.get s).checkout d.directory s with
  | (.error e, connections, s) => (.error e, d.connections.set connections s)
  | (.ok lease, connections, s) =>
    match use lease.connection (d.connections.set connections s) with
    | (a, s) => (.ok a, d.giveBack lease s)

/-- The entries that a filter finds. -/
def search (d : DirectorySearch κ σ) (filter : String) (s : σ) :
    Except ResolutionError (List DirectoryEntry) × σ :=
  match d.withConnection (fun k => d.directory.search k filter d.returned) s with
  | (.error e, s) => (.error e.toResolution, s)
  | (.ok (.error e), s) =>
    (.error (.dataConnector d.id s!"search '{filter}' failed: {e.message}"), s)
  | (.ok (.ok entries), s) => (.ok entries, s)

/-- The attributes of the first entry that a filter finds. -/
def ask (d : DirectorySearch κ σ) (filter : String) (s : σ) :
    Except ResolutionError AttributeMap × σ :=
  match d.search filter s with
  | (.error e, s) => (.error e, s)
  | (.ok [], s) => if d.emptyIsError then (.error (.noResult d.id), s) else (.ok [], s)
  | (.ok (entry :: _), s) => (.ok entry.toAttributes, s)

/-- Whether a connection can be opened and used. -/
def check (d : DirectorySearch κ σ) (s : σ) : Except ResolutionError Unit × σ :=
  let unusable (what : String) (e : ResolutionError) : ResolutionError :=
    .invalidConfiguration d.id s!"unable to {what}: {e.message}"
  match d.withConnection d.directory.connect s with
  | (.error e, s) => (.error (unusable "obtain connection" e.toResolution), s)
  | (.ok (.error e), s) => (.error (unusable "connect" e), s)
  | (.ok (.ok ()), s) => (.ok (), s)

/-- A filter is taken without white space at its ends. -/
def inquiry (d : DirectorySearch κ σ) : Inquiry σ where
  settings := d.settings
  templates := d.templates
  escaping := .filter
  statementOf := Text.trim
  cache := d.cache
  ask := d.ask
  check := d.check

/-- Makes the connector, with a template for its filters. -/
def connector (d : DirectorySearch κ σ) (template : String) (s : σ) :
    Except ResolutionError (Connector σ) × σ :=
  match Inquiry.registerTemplate d.settings d.templates template s with
  | (.error e, s) => (.error e, s)
  | (.ok (), s) => (.ok d.inquiry.connector, s)

end DirectorySearch

end AttributeRelease
