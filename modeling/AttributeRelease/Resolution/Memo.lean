import AttributeRelease.Attribute

/-!
# Memos

What was resolved for a request so far, by the ids of the plugins: the attributes of a connector, or
the one attribute of a definition. Plugins read the values of their dependencies from the memo.
-/

namespace AttributeRelease

/-- The attributes of a connector. One that failed has the attributes of its failover; the origin is
the connector that obtained them. -/
structure Sourced where
  origin : String
  attributes : AttributeMap

/-- The result of a plugin. -/
inductive Resolved
  | connector (result : Sourced)
  | definition (result : Attribute)

/-- The results of plugins by their ids. -/
structure Memo where
  entries : List (String × Resolved)

namespace Memo

def empty : Memo := ⟨[]⟩

def ids (m : Memo) : List String := m.entries.map (·.1)

def get? (m : Memo) (id : String) : Option Resolved := m.entries.lookup id

/-- Whether a plugin has a result. -/
def contains (m : Memo) (id : String) : Bool := (m.get? id).isSome

/-- The result of a connector. -/
def connector? (m : Memo) (id : String) : Option Sourced :=
  match m.get? id with
  | some (.connector result) => some result
  | _ => none

/-- The result of a definition. -/
def definition? (m : Memo) (id : String) : Option Attribute :=
  match m.get? id with
  | some (.definition a) => some a
  | _ => none

/-- Keeps a result, in place of one that the plugin has. -/
def put (m : Memo) (id : String) (r : Resolved) : Memo :=
  ⟨(id, r) :: m.entries.filter (·.1 ≠ id)⟩

/-- The plugin has the result that was put. -/
theorem get?_put_self (m : Memo) (id : String) (r : Resolved) : (m.put id r).get? id = some r := by
  simp [put, get?]

/-- Every other plugin keeps its result. -/
theorem get?_put_of_ne (m : Memo) {id other : String} (h : id ≠ other) (r : Resolved) :
    (m.put id r).get? other = m.get? other := by
  have hb : (other == id) = false := by simpa using Ne.symm h
  simp only [put, get?, List.lookup_cons, hb]
  induction m.entries with
  | nil => rfl
  | cons entry rest ih =>
    obtain ⟨k, a⟩ := entry
    simp only [ne_eq, decide_not] at ih ⊢
    by_cases hk : k = id
    · subst hk; simp [List.lookup_cons, hb, ih]
    · by_cases ho : other = k
      · subst ho; simp [hk]
      · have : (other == k) = false := by simpa using ho
        simp [hk, List.lookup_cons, this, ih]

/-- One plugin more has a result, and none fewer. -/
theorem contains_put (m : Memo) (id other : String) (r : Resolved) :
    (m.put id r).contains other = (other == id || m.contains other) := by
  by_cases h : id = other
  · subst h; simp [contains, get?_put_self]
  · have : (other == id) = false := by simpa using Ne.symm h
    simp [contains, get?_put_of_ne m h, this]

/-! ## Dependencies -/

/-- The values that a dependency contributes to what is made of an attribute: all of a definition,
and of a connector those of the attribute. -/
def contribution (m : Memo) (source id : String) : List Value :=
  match m.get? id with
  | some (.definition a) => a.values
  | some (.connector c) => ((c.attributes.get? source).map Attribute.values).getD []
  | none => []

/-- The values that dependencies contribute, in their order. -/
def dependencyValues (m : Memo) (dependencies : List String) (source : String) : List Value :=
  dependencies.flatMap (m.contribution source)

/-- The attributes of a plugin. -/
def attributesOf (m : Memo) (id : String) : List Attribute :=
  match m.get? id with
  | some (.definition a) => [a]
  | some (.connector c) => c.attributes.map (·.2)
  | none => []

/-- The attributes of dependencies, those of one name put together. -/
def dependencyAttributes (m : Memo) (dependencies : List String) : AttributeMap :=
  (dependencies.flatMap m.attributesOf).foldl
    (fun (merged : AttributeMap) (a : Attribute) => merged.append a.id a.values) []

/-- Dependencies contribute one after the other. -/
theorem dependencyValues_append (m : Memo) (ds es : List String) (source : String) :
    m.dependencyValues (ds ++ es) source =
      m.dependencyValues ds source ++ m.dependencyValues es source := by
  simp [dependencyValues]

end Memo

end AttributeRelease
