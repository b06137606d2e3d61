import AttributeRelease.Registry.Basic

/-!
# Checks of registries

A registry can be used when no plugin depends on itself and every plugin can be used. A connector
that cannot be used is put up with when one of the connectors that it fails over to can.
-/

namespace AttributeRelease

namespace Registry

variable {σ : Type}

/-- Checks that no plugin depends on itself. -/
def checkOrder (r : Registry σ) : Except ResolutionError Unit :=
  match r.order with
  | .error (.duplicate _) => .ok ()
  | .error e => .error e.toResolution
  | .ok _ => .ok ()

/-- Checks a connector, and as long as that fails the connectors that it fails over to. Every one
that is tried is another connector, so there is never need for more `room` than there are
connectors. -/
def checkChain (r : Registry σ) (start : String) :
    Nat → List String → Connector σ → σ → Except ResolutionError Unit × σ
  | 0, _, _, s => (.error (.internal "failover chain too long"), s)
  | room + 1, tried, c, s =>
    match c.check s, c.failover with
    | (.ok (), s), _ => (.ok (), s)
    | (.error e, s), none => (.error e, s)
    | (.error _, s), some other =>
      if tried.contains other then
        (.error (.circularDependency s!"failover chain of '{start}' revisits '{other}'"), s)
      else
        match r.connector? other with
        | none => (.error (.unknownDataConnector other), s)
        | some c => checkChain r start room (other :: tried) c s

/-- Checks one after the other, up to the first one that fails. -/
def checkEach {α : Type} (check : α → σ → Except ResolutionError Unit × σ) :
    List α → σ → Except ResolutionError Unit × σ
  | [], s => (.ok (), s)
  | a :: rest, s =>
    match check a s with
    | (.error e, s) => (.error e, s)
    | (.ok (), s) => checkEach check rest s

/-- Checks the connectors, then the definitions, then the principal connectors. -/
def checkPlugins (r : Registry σ) (s : σ) : Except ResolutionError Unit × σ :=
  let chain (c : Connector σ) := r.checkChain c.id r.connectors.length [c.id] c
  match checkEach chain r.connectors s with
  | (.error e, s) => (.error e, s)
  | (.ok (), s) =>
    match checkEach Definition.check r.definitions s with
    | (.error e, s) => (.error e, s)
    | (.ok (), s) => checkEach PrincipalConnector.check r.principals s

/-- Checks whether a registry can be used. -/
def check (r : Registry σ) (s : σ) : Except ResolutionError Unit × σ :=
  match r.checkOrder with
  | .error e => (.error e, s)
  | .ok () => r.checkPlugins s

end Registry

end AttributeRelease
