import AttributeRelease.Release.Criterion

/-!
# Selections

While policies are applied, a selection holds the values that were permitted so far, and the
criteria that will withhold values at the end.
-/

namespace AttributeRelease

/-- What was selected for release so far. -/
structure Selection (σ : Type) where
  facts : Facts
  /-- The permitted values of attributes, in the order in which the attributes came up. -/
  retained : List (String × List Value)
  /-- The criteria that withhold values of an attribute, in the order in which they came up. -/
  denials : List (String × Criterion σ)

namespace Selection

variable {σ : Type}

/-- Nothing is selected yet. -/
def start (facts : Facts) : Selection σ := ⟨facts, [], []⟩

/-- The attributes with an entry. -/
def ids (s : Selection σ) : List String := s.retained.map (·.1)

/-- The values of an attribute before filtering. -/
def unfiltered (s : Selection σ) (id : String) : List Value :=
  ((s.facts.attributes.get? id).map (·.values)).getD []

/-- The entry of an attribute. Where there is none, it is empty, or holds all values of the
attribute if the entry is to be filled. -/
def values (s : Selection σ) (id : String) (fill : Bool) : List Value :=
  (s.retained.lookup id).getD (if fill then s.unfiltered id else [])

/-- Puts an entry in place of the one that is there. -/
def putEntry (id : String) (values : List Value) :
    List (String × List Value) → List (String × List Value)
  | [] => [(id, values)]
  | (k, old) :: rest => if k = id then (k, values) :: rest else (k, old) :: putEntry id values rest

def put (s : Selection σ) (id : String) (values : List Value) : Selection σ :=
  { s with retained := putEntry id values s.retained }

/-- Makes an entry where there is none. -/
def touch (s : Selection σ) (id : String) (fill : Bool) : Selection σ := s.put id (s.values id fill)

/-- Adds values without the ones that are there already. -/
def addNew (old : List Value) (new : List Value) : List Value :=
  new.foldl (fun kept v => if kept.contains v then kept else kept ++ [v]) old

/-- Permits values of an attribute. -/
def retain (s : Selection σ) (id : String) (values : List Value) : Selection σ :=
  s.put id (addNew (s.values id false) values)

/-- Adds a criterion that withholds values of an attribute. -/
def deny (s : Selection σ) (id : String) (c : Criterion σ) : Selection σ :=
  { s with denials := s.denials ++ [(id, c)] }

/-- The criteria that withhold values of an attribute. -/
def denialsOf (s : Selection σ) (id : String) : List (Criterion σ) :=
  (s.denials.filter (·.1 == id)).map (·.2)

/-- The attribute has the entry that was put, and every other one what it had. -/
theorem lookup_putEntry (id other : String) (values : List Value)
    (entries : List (String × List Value)) :
    (putEntry id values entries).lookup other =
      if id = other then some values else entries.lookup other := by
  induction entries with
  | nil => grind [putEntry]
  | cons entry rest ih =>
    obtain ⟨k, old⟩ := entry
    grind [putEntry]

/-- The values that were put are read back. -/
theorem values_put_self (s : Selection σ) (id : String) (values : List Value) (fill : Bool) :
    (s.put id values).values id fill = values := by
  simp [put, Selection.values, lookup_putEntry]

/-- All values are there, the old and the new. -/
theorem mem_addNew {old new : List Value} {v : Value} :
    v ∈ addNew old new ↔ v ∈ old ∨ v ∈ new := by
  induction new generalizing old with
  | nil => simp [addNew]
  | cons x rest ih =>
    have step : addNew old (x :: rest) =
      addNew (if old.contains x then old else old ++ [x]) rest := rfl
    rw [step, ih]
    split <;> grind

/-- No value comes in twice. -/
theorem nodup_addNew {old : List Value} (h : old.Nodup) (new : List Value) :
    (addNew old new).Nodup := by
  induction new generalizing old with
  | nil => exact h
  | cons x rest ih =>
    have step : addNew old (x :: rest) =
      addNew (if old.contains x then old else old ++ [x]) rest := rfl
    rw [step]
    apply ih
    split
    · exact h
    · grind

/-- What is permitted is added to the entry, which need not exist. -/
theorem values_retain_self (s : Selection σ) (id : String) (values : List Value) (fill : Bool) :
    (s.retain id values).values id fill = addNew (s.values id false) values := by
  simp [retain, values_put_self]

/-- The criterion stands behind those of its attribute, and nowhere else. -/
theorem denialsOf_deny (s : Selection σ) (id other : String) (c : Criterion σ) :
    (s.deny id c).denialsOf other =
      s.denialsOf other ++ if id = other then [c] else [] := by
  by_cases h : id = other <;> simp [deny, denialsOf, h]

end Selection

end AttributeRelease
