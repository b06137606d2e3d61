import AttributeRelease.Cache.Basic
import AttributeRelease.Escaping
import AttributeRelease.Plugin.Basic
import AttributeRelease.Request
import AttributeRelease.Resolution.Error
import AttributeRelease.Resolution.Memo
import AttributeRelease.Template.Basic

/-!
# Connectors that ask by statements

What connectors to directories and to databases have in common: a template is registered when the
connector is made, and shown for every request; the source is asked with the statement, unless a
cache has the answer. The template sees some fields of the request and the values of the attributes
that the connector depends on, all of them escaped for the kind of statement.
-/

namespace AttributeRelease

/-! ## Statements -/

namespace Statement

/-- The fields of a request that templates see, in ascending order of their names. -/
def requestFields (r : Request) : List (String × Option String) :=
  [("inboundMessageIssuer", r.requester), ("localEntityId", r.localEntityId),
    ("outboundMessageIssuer", r.issuer),
    ("principalAuthenticationMethod", r.authenticationMethod),
    ("principalName", r.principalName)]

/-- What templates see of a request; a field that is missing there is missing here. -/
def requestData (e : Escaping) (r : Request) : Json :=
  .object ((requestFields r).filterMap fun (name, value) =>
    value.map fun v => (name, .string (e.apply v)))

/-- What templates see of an attribute: the list of its values. -/
def valueData (e : Escaping) (a : Attribute) : Json :=
  .array (a.values.map fun v => .string (e.apply v.text))

/-- What templates see. The request is there under a name of its own, whatever attributes there
are. -/
def data (e : Escaping) (r : Request) (m : Memo) (dependencies : List String) : Json :=
  let attributes := (m.dependencyAttributes dependencies).foldl
    (fun (members : List (String × Json)) (entry : String × Attribute) =>
      Json.putMember entry.1 (valueData e entry.2) members) []
  .object (Json.putMember "requestContext" (requestData e r) attributes)

end Statement

/-- The statement that a registered template gives. -/
def Templates.statement (t : Templates) (name : String) (e : Escaping) (r : Request) (m : Memo)
    (dependencies : List String) : Except ResolutionError String :=
  match t.render name (Statement.data e r m dependencies) with
  | .error fault => .error (.template fault.message)
  | .ok text => .ok text

/-! ## Connectors -/

/-- A source that is asked by statements. -/
structure Inquiry (σ : Type) where
  settings : ConnectorSettings
  /-- The templates, among them the one that gives the statements. -/
  templates : Part σ Templates
  escaping : Escaping
  /-- The statement that the source is asked with, of the text of the template. -/
  statementOf : String → String
  cache : Option (CacheAccess σ)
  /-- Asks the source. -/
  ask : String → σ → Except ResolutionError AttributeMap × σ
  /-- Whether the source can be asked. -/
  check : σ → Except ResolutionError Unit × σ

namespace Inquiry

variable {σ : Type}

/-- The name that the template of a connector is registered under. -/
def templateName (settings : ConnectorSettings) : String := "resolver.dc." ++ settings.plugin.id

/-- Registers the template of a connector. -/
def registerTemplate (settings : ConnectorSettings) (templates : Part σ Templates)
    (template : String) (s : σ) : Except ResolutionError Unit × σ :=
  match (templates.get s).register (templateName settings) template with
  | .error e => (.error (.template e.message), s)
  | .ok t => (.ok (), templates.set t s)

/-- Asks with a statement, or takes the answer from the cache. -/
def answer (q : Inquiry σ) (statement : String) (s : σ) :
    Except ResolutionError AttributeMap × σ :=
  match q.cache with
  | none => q.ask statement s
  | some cache => cache.answer q.ask statement s

/-- The attributes for a request. -/
def resolve (q : Inquiry σ) (request : Request) (memo : Memo) (s : σ) :
    Except ResolutionError AttributeMap × σ :=
  match (q.templates.get s).statement (templateName q.settings) q.escaping request memo
      q.settings.plugin.dependencies with
  | .error e => (.error e, s)
  | .ok text => q.answer (q.statementOf text) s

/-- The connector that asks. -/
def connector (q : Inquiry σ) : Connector σ where
  id := q.settings.plugin.id
  dependencies := q.settings.plugin.dependencies
  failover := q.settings.failover
  resolve := q.resolve
  check := q.check

end Inquiry

end AttributeRelease
