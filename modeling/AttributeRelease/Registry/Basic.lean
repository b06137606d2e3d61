import AttributeRelease.Graph.Order
import AttributeRelease.Plugin.Basic

/-!
# Registries

The plugins of a resolver in the order in which they were added. Connectors and definitions share
their ids, since a dependency may name either; principal connectors have ids of their own.
-/

namespace AttributeRelease

/-- The plugins of a resolver. -/
structure Registry (σ : Type) where
  connectors : List (Connector σ)
  definitions : List (Definition σ)
  principals : List (PrincipalConnector σ)

/-- The error of a resolver whose plugins have a graph with this fault. -/
def Graph.Error.toResolution : Graph.Error → ResolutionError
  | circular path => .circularDependency (pathText path)
  | unknownCycle => .circularDependency "Unknown cycle detected"
  | miscounted id => .internal s!"dependencies of '{id}' are counted below zero"
  | duplicate id => .duplicatePlugin id

namespace Registry

variable {σ : Type}

def empty : Registry σ := ⟨[], [], []⟩

def connectorIds (r : Registry σ) : List String := r.connectors.map (·.id)

def definitionIds (r : Registry σ) : List String := r.definitions.map (·.id)

def principalIds (r : Registry σ) : List String := r.principals.map (·.id)

def connector? (r : Registry σ) (id : String) : Option (Connector σ) :=
  r.connectors.find? fun c => c.id == id

def definition? (r : Registry σ) (id : String) : Option (Definition σ) :=
  r.definitions.find? fun d => d.id == id

/-- Whether a connector or a definition has an id. -/
def contains (r : Registry σ) (id : String) : Bool :=
  (r.connector? id).isSome || (r.definition? id).isSome

/-- How many plugins can depend on others. -/
def size (r : Registry σ) : Nat := r.connectors.length + r.definitions.length

/-! ## Adding plugins -/

def addConnector (r : Registry σ) (c : Connector σ) : Except ResolutionError (Registry σ) :=
  if r.contains c.id then .error (.duplicatePlugin c.id)
  else .ok { r with connectors := r.connectors ++ [c] }

def addDefinition (r : Registry σ) (d : Definition σ) : Except ResolutionError (Registry σ) :=
  if r.contains d.id then .error (.duplicatePlugin d.id)
  else .ok { r with definitions := r.definitions ++ [d] }

def addPrincipal (r : Registry σ) (p : PrincipalConnector σ) :
    Except ResolutionError (Registry σ) :=
  if r.principalIds.contains p.id then .error (.duplicatePlugin p.id)
  else .ok { r with principals := r.principals ++ [p] }

/-- Adds a plugin of any sort. -/
def add (r : Registry σ) : Plugin σ → Except ResolutionError (Registry σ)
  | .connector c => r.addConnector c
  | .definition d => r.addDefinition d
  | .principal p => r.addPrincipal p

/-! ## Dependencies -/

/-- The plugins of a graph, with what they depend on; a failover counts as a dependency. -/
def dependencyLists (r : Registry σ) : List (String × List String) :=
  r.connectors.map (fun c => (c.id, c.dependencies ++ c.failover.toList)) ++
    r.definitions.map fun d => (d.id, d.dependencies)

/-- The graph of the dependencies. -/
def graph (r : Registry σ) : Except Graph.Error Graph :=
  (r.dependencyLists.foldlM (fun (g : Graph) (n : String × List String) => g.add n.1 n.2)
    Graph.empty).map Graph.link

/-- All connectors and definitions, dependencies first. -/
def order (r : Registry σ) : Except Graph.Error (List String) := r.graph.bind Graph.order

/-! ## Principal connectors -/

/-- Whether a connector serves a requester by name. -/
def lists (requester : Option String) (p : PrincipalConnector σ) : Bool :=
  requester.any p.relyingParties.contains

/-- Chooses among principal connectors for a format and a requester. The first one that lists the
requester is taken at once; `everybody`, the first one so far that serves everybody, is taken when
there is none. -/
def choosePrincipal (format : String) (requester : Option String) :
    Option (PrincipalConnector σ) → List (PrincipalConnector σ) → Option (PrincipalConnector σ)
  | everybody, [] => everybody
  | everybody, p :: rest =>
    if p.format ≠ format then choosePrincipal format requester everybody rest
    else if p.relyingParties.isEmpty then
      choosePrincipal format requester (everybody.or (some p)) rest
    else if lists requester p then some p
    else choosePrincipal format requester everybody rest

/-- The principal connector for a format and a requester. -/
def principal? (r : Registry σ) (format : String) (requester : Option String) :
    Option (PrincipalConnector σ) :=
  choosePrincipal format requester none r.principals

end Registry

end AttributeRelease
