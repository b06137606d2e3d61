import AttributeRelease.Transient.Basic

/-!
# Plugins for transient identifiers

A definition that issues transient identifiers, and a principal connector that recognises them.
-/

namespace AttributeRelease

variable {σ : Type}

/-- How identifiers are issued. -/
structure TransientIssue (σ : Type) where
  settings : DefinitionSettings
  sealer : Sealer σ
  /-- Reads the time in milliseconds. -/
  clock : σ → Int × σ
  lifetime : Duration := .ofMillis 14400000

namespace TransientIssue

/-- The sealed identifier for a request. -/
def issue (t : TransientIssue σ) (r : Request) (s : σ) : Except ResolutionError String × σ :=
  match TransientId.ofRequest r with
  | .error e => (.error e, s)
  | .ok content =>
    let (now, s) := t.clock s
    match t.sealer.wrap content.text (TransientId.expiry now t.lifetime) s with
    | (.error e, s) =>
      (.error (.attributeDefinition t.settings.id s!"unable to seal identifier: {e.message}"), s)
    | (.ok token, s) => (.ok token, s)

/-- Identifiers have to live for some time. -/
def check (t : TransientIssue σ) : Except ResolutionError Unit :=
  if t.lifetime.nanos = 0 then
    .error (.invalidConfiguration t.settings.id "identifier lifetime must be positive")
  else .ok ()

/-- The definition of an attribute that has the identifier as its value. -/
def definition (t : TransientIssue σ) : Definition σ where
  id := t.settings.id
  dependencies := t.settings.plugin.dependencies
  dependencyOnly := t.settings.dependencyOnly
  resolve request _ s :=
    match t.issue request s with
    | (.error e, s) => (.error e, s)
    | (.ok token, s) => (.ok { id := t.settings.id, values := [.string token] }, s)
  check s := (t.check, s)

end TransientIssue

/-- How identifiers are recognised. -/
structure TransientRecognition (σ : Type) where
  settings : PluginSettings
  /-- The format of subject identifiers that hold transient identifiers. -/
  format : String
  relyingParties : List String := []
  sealer : Sealer σ

namespace TransientRecognition

/-- The principal for the subject identifier of a request. -/
def recognise (t : TransientRecognition σ) (r : Request) (s : σ) :
    Except ResolutionError String × σ :=
  match r.subject with
  | none => (.error (.missingRequestData "subject name identifier"), s)
  | some subject =>
    match t.sealer.unwrap subject.value s with
    | (.error e, s) => (.error e.toResolution, s)
    | (.ok plaintext, s) => (TransientId.principalOf plaintext subject r, s)

/-- A connector understands one format. -/
def check (t : TransientRecognition σ) : Except ResolutionError Unit :=
  if t.format = "" then
    .error (.invalidConfiguration t.settings.id "name identifier format is required")
  else .ok ()

/-- The principal connector that recognises identifiers. -/
def connector (t : TransientRecognition σ) : PrincipalConnector σ where
  id := t.settings.id
  dependencies := t.settings.dependencies
  format := t.format
  relyingParties := t.relyingParties
  resolve request _ := t.recognise request
  check s := (t.check, s)

end TransientRecognition

end AttributeRelease
