import AttributeRelease.Distinct
import AttributeRelease.Value.Debug

/-!
# Attributes

An attribute is a name with values in order, and possibly an order in which they are to be shown.
Attribute maps hold one attribute per key and keep the order in which the keys were first put.
-/

namespace AttributeRelease

/-- An order of values. -/
abbrev Comparator := Value → Value → Ordering

/-- A named list of values. -/
structure Attribute where
  id : String
  values : List Value
  comparator : Option Comparator := none

namespace Attribute

def empty (id : String) : Attribute := { id := id, values := [] }

def add (a : Attribute) (v : Value) : Attribute := { a with values := a.values ++ [v] }

def extend (a : Attribute) (vs : List Value) : Attribute := { a with values := a.values ++ vs }

def isEmpty (a : Attribute) : Bool := a.values.isEmpty

/-- The attribute without the later repeats of its values. -/
def dedup (a : Attribute) : Attribute := { a with values := keepFirst a.values }

/-- How many values are later repeats. -/
def repeats (a : Attribute) : Nat := a.values.length - (keepFirst a.values).length

/-- The values in the order of the comparator; equal ones stay in their order. -/
def sorted (a : Attribute) : List Value :=
  match a.comparator with
  | none => a.values
  | some compare => a.values.mergeSort fun x y => compare x y != .gt

/-- Attributes are alike when they agree in name and values, whatever their comparators. -/
def alike (a b : Attribute) : Bool := a.id == b.id && a.values == b.values

/-- An attribute as it appears in diagnostic texts. -/
def debug (a : Attribute) : String :=
  withFields "Attribute" [("id", Text.quoted a.id),
    ("values", bracketed (a.values.map Value.debug)),
    ("comparator", debugBool a.comparator.isSome)]

end Attribute

/-- Attributes by their keys. -/
abbrev AttributeMap := List (String × Attribute)

namespace AttributeMap

def get? (m : AttributeMap) (id : String) : Option Attribute := m.lookup id

def ids (m : AttributeMap) : List String := m.map (·.1)

/-- Puts an attribute under a key, in place of one that is there. -/
def insert : AttributeMap → String → Attribute → AttributeMap
  | [], id, a => [(id, a)]
  | (k, b) :: rest, id, a => if k = id then (k, a) :: rest else (k, b) :: insert rest id a

/-- Appends values to the attribute under a key; where there is none, one with that key is made. -/
def append (m : AttributeMap) (id : String) (values : List Value) : AttributeMap :=
  m.insert id (((m.get? id).getD (.empty id)).extend values)

theorem get?_cons (k : String) (a : Attribute) (m : AttributeMap) (id : String) :
    get? ((k, a) :: m) id = if k = id then some a else get? m id := by
  by_cases h : k = id
  · simp [get?, h]
  · have : (id == k) = false := by simpa using fun e => h e.symm
    simp [get?, List.lookup_cons, h, this]

/-- The key has the attribute that was put, and every other key what it had. -/
theorem get?_insert (m : AttributeMap) (id other : String) (a : Attribute) :
    (m.insert id a).get? other = if id = other then some a else m.get? other := by
  induction m with
  | nil => simp [insert, get?_cons]
  | cons entry rest ih =>
    obtain ⟨k, b⟩ := entry
    by_cases h : k = id
    · subst h; by_cases h' : k = other <;> simp [insert, get?_cons, h']
    · by_cases h' : k = other
      · subst h'; simp [insert, get?_cons, h, Ne.symm h]
      · simp [insert, get?_cons, h, h', ih]

/-- The key has the values it had, and behind them the new ones. -/
theorem get?_append_self (m : AttributeMap) (id : String) (values : List Value) :
    (m.append id values).get? id = some (((m.get? id).getD (.empty id)).extend values) := by
  simp [append, get?_insert]

/-- Every other key keeps what it had. -/
theorem get?_append_of_ne (m : AttributeMap) {id other : String} (h : id ≠ other)
    (values : List Value) : (m.append id values).get? other = m.get? other := by
  simp [append, get?_insert, h]

/-- No key is lost, and no other key comes in. -/
theorem mem_ids_insert {m : AttributeMap} {id other : String} {a : Attribute} :
    other ∈ (m.insert id a).ids ↔ other = id ∨ other ∈ m.ids := by
  induction m with
  | nil => simp [insert, ids]
  | cons entry rest ih =>
    obtain ⟨k, b⟩ := entry
    by_cases h : k = id
    · subst h; simp [insert, ids]
    · have ih : other ∈ (insert rest id a).map (·.1) ↔ other = id ∨ other ∈ rest.map (·.1) := ih
      simp only [insert, h, if_false, ids, List.map_cons, List.mem_cons, ih]
      grind

/-- No key comes in twice. -/
theorem nodup_ids_insert {m : AttributeMap} (h : m.ids.Nodup) (id : String) (a : Attribute) :
    (m.insert id a).ids.Nodup := by
  induction m with
  | nil => exact List.nodup_cons.mpr ⟨List.not_mem_nil, List.nodup_nil⟩
  | cons entry rest ih =>
    obtain ⟨key, b⟩ := entry
    obtain ⟨hkey, hrest⟩ := List.nodup_cons.mp h
    rw [insert]
    by_cases hid : key = id
    · rw [if_pos hid]
      exact List.nodup_cons.mpr ⟨hkey, hrest⟩
    · rw [if_neg hid]
      refine List.nodup_cons.mpr ⟨fun hmem => ?_, ih hrest⟩
      rcases mem_ids_insert.mp hmem with heq | hmem
      · exact hid heq
      · exact hkey hmem

/-- The keys are those that have attributes. -/
theorem mem_ids_iff {m : AttributeMap} {id : String} :
    id ∈ m.ids ↔ ∃ a, m.get? id = some a := by
  induction m with
  | nil => simp [ids, get?]
  | cons entry rest ih =>
    obtain ⟨key, b⟩ := entry
    have ih : id ∈ rest.map (·.1) ↔ ∃ a, get? rest id = some a := ih
    rw [get?_cons, ids, List.map_cons, List.mem_cons, ih]
    by_cases hid : key = id
    · simp [hid]
    · simp [hid, Ne.symm hid]

end AttributeMap

end AttributeRelease
