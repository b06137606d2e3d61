import AttributeRelease.Registry.Basic
import AttributeRelease.Resolution.Basic

/-!
# Walks through dependencies

A plugin is resolved after what it depends on, and at most once in a resolution. A connector that
fails gives way to its failover; it stays in progress until that has a result.
-/

namespace AttributeRelease

namespace Registry

variable {σ : Type}

open Resolution (Step during discard each)

/-! ## One plugin

The steps for one plugin, given the steps for those that it needs. -/

/-- Resolves what an id names; an id that no plugin has is passed over. -/
def visit (r : Registry σ) (connector : String → Step σ Sourced)
    (definition : String → Step σ (Option Attribute)) (id : String) : Step σ Unit :=
  if (r.connector? id).isSome then discard (connector id)
  else if (r.definition? id).isSome then discard (definition id)
  else fun x s => (.ok (), x, s)

/-- The result of a connector, or of its failover if it fails. -/
def withFailover (visit : String → Step σ Unit) (connector : String → Step σ Sourced)
    (c : Connector σ) : Step σ Sourced := fun x s =>
  match each visit c.dependencies x s with
  | (.error e, x, s) => (.error e, x, s)
  | (.ok _, x, s) =>
    match c.resolve x.request x.memo s, c.failover with
    | (.ok attributes, s), _ => (.ok ⟨c.id, attributes⟩, x, s)
    | (.error e, s), none => (.error e, x, s)
    | (.error _, s), some other => connector other x s

/-- Resolves a connector. -/
def connectorStep (r : Registry σ) (visit : String → Step σ Unit)
    (connector : String → Step σ Sourced) (id : String) : Step σ Sourced := fun x s =>
  match x.memo.connector? id with
  | some result => (.ok result, x, s)
  | none =>
    match r.connector? id with
    | none => (.error (.unknownDataConnector id), x, s)
    | some c =>
      match during id (withFailover visit connector c) x s with
      | (.error e, x, s) => (.error e, x, s)
      | (.ok result, x, s) => (.ok result, x.record id (.connector result), s)

/-- The attribute of a definition. -/
def withDependencies (visit : String → Step σ Unit) (d : Definition σ) : Step σ Attribute :=
  fun x s =>
    match each visit d.dependencies x s with
    | (.error e, x, s) => (.error e, x, s)
    | (.ok _, x, s) =>
      match d.resolve x.request x.memo s with
      | (result, s) => (result, x, s)

/-- Resolves a definition; for an id that no definition has, there is no attribute. -/
def definitionStep (r : Registry σ) (visit : String → Step σ Unit) (id : String) :
    Step σ (Option Attribute) := fun x s =>
  match x.memo.definition? id with
  | some a => (.ok (some a), x, s)
  | none =>
    match r.definition? id with
    | none => (.ok none, x, s)
    | some d =>
      match during id (withDependencies visit d) x s with
      | (.error e, x, s) => (.error e, x, s)
      | (.ok a, x, s) => (.ok (some a), x.record id (.definition a), s)

/-! ## All plugins

Every plugin that is needed for another one is entered while that one is in progress, and none is
entered twice. So the steps never lie deeper in each other than there are plugins, and `room` for
one more does not run out. -/

/-- A step for which there is no room. -/
def outOfRoom {α : Type} : Step σ α := fun x s => (.error (.internal "no room for a plugin"), x, s)

mutual

def connectorWithin (r : Registry σ) : Nat → String → Step σ Sourced
  | 0 => fun _ => outOfRoom
  | room + 1 =>
    r.connectorStep (r.visit (connectorWithin r room) (definitionWithin r room))
      (connectorWithin r room)

def definitionWithin (r : Registry σ) : Nat → String → Step σ (Option Attribute)
  | 0 => fun _ => outOfRoom
  | room + 1 =>
    r.definitionStep (r.visit (connectorWithin r room) (definitionWithin r room))

end

/-- Resolves a connector. -/
def resolveConnector (r : Registry σ) : String → Step σ Sourced := r.connectorWithin (r.size + 1)

/-- Resolves a definition. -/
def resolveDefinition (r : Registry σ) : String → Step σ (Option Attribute) :=
  r.definitionWithin (r.size + 1)

/-- Resolves dependencies in order. -/
def resolveDependencies (r : Registry σ) (dependencies : List String) : Step σ Unit :=
  discard (each (r.visit r.resolveConnector r.resolveDefinition) dependencies)

end Registry

end AttributeRelease
