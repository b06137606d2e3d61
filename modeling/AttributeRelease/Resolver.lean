import AttributeRelease.Refused
import AttributeRelease.Registry.Check
import AttributeRelease.Resolution.Walk

/-!
# Resolvers

A resolver answers requests for attributes, and for the principal that a subject identifier stands
for, with the plugins that it has. It can be given other plugins, which are checked first.
-/

namespace AttributeRelease

/-- A service that resolves attributes. -/
structure Resolver (σ : Type) where
  id : String
  registry : Registry σ

namespace Resolver

variable {σ : Type}

/-! ## Plugins -/

/-- The resolver with other plugins, if they can be used. -/
def reload (r : Resolver σ) (registry : Registry σ) (s : σ) :
    Except (Refused ResolutionError) (Resolver σ) × σ :=
  match registry.check s with
  | (.error cause, s) => (.error ⟨r.id, cause⟩, s)
  | (.ok (), s) => (.ok { r with registry }, s)

/-- A resolver whose plugins can be used. -/
def validated (id : String) (registry : Registry σ) (s : σ) :
    Except (Refused ResolutionError) (Resolver σ) × σ :=
  reload ⟨id, registry⟩ registry s

/-- Checks whether the plugins can be used. -/
def check (r : Resolver σ) (s : σ) : Except ResolutionError Unit × σ := r.registry.check s

/-- All connectors and definitions, dependencies first. -/
def order (r : Resolver σ) : Except ResolutionError (List String) :=
  r.registry.order.mapError Graph.Error.toResolution

/-! ## Attributes -/

/-- Whether the attribute of a definition feeds other plugins only. -/
def isDependencyOnly (r : Resolver σ) (id : String) : Bool :=
  (r.registry.definition? id).any (·.dependencyOnly)

/-- The attributes that come out of a resolution: those that have values and do not feed other
plugins only, without repeats of values. -/
def outcome (r : Resolver σ) (resolved : List (String × Option Attribute)) : AttributeMap :=
  resolved.foldl (fun (m : AttributeMap) (entry : String × Option Attribute) =>
    match entry with
    | (_, none) => m
    | (id, some a) => if r.isDependencyOnly id || a.isEmpty then m else m.insert id a.dedup) []

/-- The definitions that a request asks for. -/
def requested (r : Resolver σ) (request : Request) : List String :=
  if request.requestedIds.isEmpty then r.registry.definitionIds else request.requestedIds

/-- Resolves the attributes that a request asks for. -/
def resolveIn (r : Resolver σ) : Resolution.Step σ AttributeMap := fun x s =>
  if r.registry.definitions.isEmpty then (.ok [], x, s)
  else
    match Resolution.each r.registry.resolveDefinition (r.requested x.request) x s with
    | (.error e, x, s) => (.error e, x, s)
    | (.ok resolved, x, s) => (.ok (r.outcome resolved), x, s)

/-- The attributes for a request. -/
def resolve (r : Resolver σ) (request : Request) (s : σ) :
    Except ResolutionError AttributeMap × σ :=
  match r.resolveIn (.start request) s with
  | (result, _, s) => (result, s)

/-! ## Principals -/

/-- The principal that the subject identifier of a request stands for. -/
def resolvePrincipal (r : Resolver σ) (request : Request) (s : σ) :
    Except ResolutionError String × σ :=
  let format := request.subjectFormat
  match r.registry.principal? format request.requester with
  | none => (.error (.noPrincipalConnector format (request.requester.getD "")), s)
  | some p =>
    match r.registry.resolveDependencies p.dependencies (.start request) s with
    | (.error e, _, s) => (.error e, s)
    | (.ok (), x, s) => p.resolve x.request x.memo s

end Resolver

end AttributeRelease
