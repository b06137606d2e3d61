import AttributeRelease.Distinct

/-!
# Dependency graphs

Which plugin depends on which. A plugin is added with the dependencies that it declares; linking
makes edges of those that name a plugin of the graph. Nodes are kept in ascending order of their
ids, so that nothing depends on the order in which they were added.
-/

namespace AttributeRelease

/-- A plugin in a dependency graph. -/
structure Graph.Node where
  id : String
  /-- The dependencies as they were declared, without repeats. -/
  declared : List String
  /-- The declared dependencies that were plugins of the graph when it was linked last. -/
  dependencies : List String
deriving DecidableEq, Repr

/-- Plugins in ascending order of their ids. -/
structure Graph where
  nodes : List Graph.Node
deriving DecidableEq, Repr

namespace Graph

/-- Why a graph is refused. -/
inductive Error
  /-- The ids of a cycle, the first one being repeated at the end. -/
  | circular (path : List String)
  /-- Plugins are left over, but no cycle among them is found. -/
  | unknownCycle
  /-- More dependencies of a plugin were placed than it waits for. -/
  | miscounted (id : String)
  | duplicate (id : String)
deriving DecidableEq, Repr

/-- A path of ids as text. -/
def pathText (path : List String) : String := " -> ".intercalate path

def Error.message : Error → String
  | circular path => s!"Circular dependency detected: {pathText path}"
  | unknownCycle => "Circular dependency detected: Unknown cycle detected"
  | miscounted id => s!"Dependencies of '{id}' are counted below zero"
  | duplicate id => s!"Duplicate plugin id: {id}"

/-- The part of a path that leads from an id back to it. -/
def cycleFrom (path : List String) (id : String) : List String :=
  path.dropWhile (· ≠ id) ++ [id]

def empty : Graph := ⟨[]⟩

def size (g : Graph) : Nat := g.nodes.length

def isEmpty (g : Graph) : Bool := g.nodes.isEmpty

def ids (g : Graph) : List String := g.nodes.map (·.id)

def contains (g : Graph) (id : String) : Bool := g.nodes.any fun n => n.id == id

/-- Puts a node before the first one with a greater id. -/
def insertNode (n : Node) : List Node → List Node
  | [] => [n]
  | m :: rest => if n.id < m.id then n :: m :: rest else m :: insertNode n rest

/-- Adds a plugin with its declared dependencies; it has no edges until the graph is linked. -/
def add (g : Graph) (id : String) (dependencies : List String) : Except Error Graph :=
  if g.contains id then .error (.duplicate id)
  else .ok ⟨insertNode ⟨id, keepFirst dependencies, []⟩ g.nodes⟩

/-- Makes edges of the declared dependencies that name a plugin of the graph. -/
def link (g : Graph) : Graph :=
  ⟨g.nodes.map fun n => { n with dependencies := n.declared.filter g.contains }⟩

/-- The node with an id. -/
def node? (g : Graph) (id : String) : Option Node := g.nodes.find? fun n => n.id == id

/-- The plugins that a plugin has edges to. -/
def dependenciesOf? (g : Graph) (id : String) : Option (List String) :=
  (g.node? id).map (·.dependencies)

/-- The declared dependencies that are no edges, each with the plugin that declares it. -/
def dangling (g : Graph) : List (String × String) :=
  g.nodes.flatMap fun n =>
    (n.declared.filter fun d => !n.dependencies.contains d).map fun d => (n.id, d)

/-- The part of a path that leads from one of its ids back to it is the end of the path. -/
theorem cycleFrom_of_mem {path : List String} {id : String} (h : id ∈ path) :
    ∃ between, cycleFrom path id = id :: between ++ [id] ∧ id :: between <:+ path := by
  induction path with
  | nil => cases h
  | cons head tail ih =>
    by_cases heq : head = id
    · exact ⟨tail, by simp [cycleFrom, heq], by simp [heq]⟩
    · have hmem : id ∈ tail := (List.mem_cons.1 h).resolve_left (Ne.symm heq)
      obtain ⟨between, hcycle, hsuffix⟩ := ih hmem
      refine ⟨between, ?_, hsuffix.trans (List.suffix_cons head tail)⟩
      rw [← hcycle, cycleFrom, cycleFrom, List.dropWhile_cons_of_pos (by simpa using heq)]

theorem contains_iff_mem_ids {g : Graph} {id : String} : g.contains id = true ↔ id ∈ g.ids := by
  rw [contains, List.any_eq_true, ids, List.mem_map]
  simp only [beq_iff_eq]

/-- One node more comes in, wherever it is put. -/
theorem insertNode_perm (n : Node) (nodes : List Node) :
    (insertNode n nodes).Perm (n :: nodes) := by
  induction nodes with
  | nil => exact .refl _
  | cons m rest ih =>
    rw [insertNode]
    split
    · exact .refl _
    · exact (ih.cons m).trans (.swap n m rest)

/-- The nodes are those that were there, and the new one. -/
theorem mem_insertNode {n m : Node} {nodes : List Node} :
    m ∈ insertNode n nodes ↔ m = n ∨ m ∈ nodes := by
  rw [(insertNode_perm n nodes).mem_iff, List.mem_cons]

/-- A plugin that is not refused comes in without edges. -/
theorem mem_nodes_add {g g' : Graph} {id : String} {dependencies : List String} {n : Node}
    (h : g.add id dependencies = .ok g') :
    n ∈ g'.nodes ↔ n = ⟨id, keepFirst dependencies, []⟩ ∨ n ∈ g.nodes := by
  rw [add] at h
  split at h
  · cases h
  · cases h
    exact mem_insertNode

/-- Linking changes edges only. -/
theorem ids_link (g : Graph) : g.link.ids = g.ids := by
  simp [link, ids, Function.comp_def]

end Graph

end AttributeRelease
