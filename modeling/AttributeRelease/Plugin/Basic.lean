import AttributeRelease.Plugin.Settings
import AttributeRelease.Request
import AttributeRelease.Resolution.Error
import AttributeRelease.Resolution.Memo

/-!
# Plugins

What a resolver is made of. Data connectors obtain attributes from outside, attribute definitions
derive one attribute each, and principal connectors find out who a subject identifier stands for.
All of them are given the request and the results of what they depend on. `σ` stands for the state
of the world that plugins act on.
-/

namespace AttributeRelease

variable {σ : Type}

/-- Obtains attributes from outside. -/
structure Connector (σ : Type) where
  id : String
  dependencies : List String
  /-- The connector whose result counts when this one fails. -/
  failover : Option String
  resolve : Request → Memo → σ → Except ResolutionError AttributeMap × σ
  /-- Whether the connector can be used. -/
  check : σ → Except ResolutionError Unit × σ

/-- Derives an attribute. -/
structure Definition (σ : Type) where
  id : String
  dependencies : List String
  /-- The attribute feeds other plugins only. -/
  dependencyOnly : Bool
  resolve : Request → Memo → σ → Except ResolutionError Attribute × σ
  /-- Whether the definition can be used. -/
  check : σ → Except ResolutionError Unit × σ

/-- Finds the principal that a subject identifier stands for. -/
structure PrincipalConnector (σ : Type) where
  id : String
  dependencies : List String
  /-- The format of the subject identifiers that are understood. -/
  format : String
  /-- The relying parties that are served; without any, all are. -/
  relyingParties : List String
  resolve : Request → Memo → σ → Except ResolutionError String × σ
  /-- Whether the connector can be used. -/
  check : σ → Except ResolutionError Unit × σ

/-- A plugin of any sort. -/
inductive Plugin (σ : Type)
  | connector (c : Connector σ)
  | definition (d : Definition σ)
  | principal (p : PrincipalConnector σ)

namespace Connector

/-- A connector with the same attributes for every request. -/
def fixed (settings : ConnectorSettings) (attributes : AttributeMap) : Connector σ where
  id := settings.plugin.id
  dependencies := settings.plugin.dependencies
  failover := settings.failover
  resolve _ _ s := (.ok attributes, s)
  check s := (.ok (), s)

end Connector

namespace Definition

/-- A definition whose values follow from the request and the values of its dependencies. -/
def derived (settings : DefinitionSettings) (check : Except ResolutionError Unit)
    (derive : Request → List Value → Except ResolutionError (List Value)) : Definition σ where
  id := settings.id
  dependencies := settings.plugin.dependencies
  dependencyOnly := settings.dependencyOnly
  resolve request memo s :=
    match derive request (memo.dependencyValues settings.plugin.dependencies settings.sourceId) with
    | .error e => (.error e, s)
    | .ok values => (.ok { id := settings.id, values }, s)
  check s := (check, s)

/-- The values that a definition is given to derive its own from. -/
def givenValues (settings : DefinitionSettings) (memo : Memo) : List Value :=
  memo.dependencyValues settings.plugin.dependencies settings.sourceId

/-- What is derived is an attribute under the definition's own name, and the world stays as it
is. -/
theorem derived_resolve (settings : DefinitionSettings) (check : Except ResolutionError Unit)
    (derive : Request → List Value → Except ResolutionError (List Value)) (request : Request)
    (memo : Memo) (s : σ) :
    (derived settings check derive).resolve request memo s =
      ((derive request (givenValues settings memo)).map fun values =>
        { id := settings.id, values }, s) := by
  unfold derived givenValues
  dsimp only
  split
  · next h => rw [h, Except.map]
  · next h => rw [h, Except.map]

theorem derived_resolve_eq_ok_iff {settings : DefinitionSettings}
    {check : Except ResolutionError Unit}
    {derive : Request → List Value → Except ResolutionError (List Value)} {request : Request}
    {memo : Memo} {s s' : σ} {a : Attribute} :
    (derived settings check derive).resolve request memo s = (.ok a, s') ↔
      s' = s ∧ ∃ values, derive request (givenValues settings memo) = .ok values ∧
        a = { id := settings.id, values } := by
  rw [derived_resolve, Prod.mk.injEq]
  cases derive request (givenValues settings memo) <;> simp [Except.map, eq_comm, and_comm]

theorem derived_resolve_eq_error_iff {settings : DefinitionSettings}
    {check : Except ResolutionError Unit}
    {derive : Request → List Value → Except ResolutionError (List Value)} {request : Request}
    {memo : Memo} {s s' : σ} {e : ResolutionError} :
    (derived settings check derive).resolve request memo s = (.error e, s') ↔
      s' = s ∧ derive request (givenValues settings memo) = .error e := by
  rw [derived_resolve, Prod.mk.injEq]
  cases derive request (givenValues settings memo) <;> simp [Except.map, eq_comm, and_comm]

/-- A definition with the values of its dependencies. -/
def copied (settings : DefinitionSettings) : Definition σ :=
  derived settings (.ok ()) fun _ values => .ok values

end Definition

end AttributeRelease
