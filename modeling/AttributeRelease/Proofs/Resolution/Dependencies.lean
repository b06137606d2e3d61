import AttributeRelease.Directory.Basic
import AttributeRelease.Proofs.Attributes
import AttributeRelease.Resolution.Memo
import AttributeRelease.Sql.Rows

/-!
# Attributes of dependencies

Templates see the attributes of dependencies put together by their names, and definitions the values
of one attribute after the other.  Where every attribute is kept under its own name, both are the
same: an attribute is there if some dependency contributes it, and has what the dependencies
contribute to it, one after the other.  In what order a connector's attributes are kept makes no
difference.
-/

namespace AttributeRelease

/-! ## Attributes of connectors -/

/-- The rows of a database give every attribute under its own name. -/
theorem Sql.keyed_attributes {columns : List Column} {rows : List SqlRow} {m : AttributeMap}
    (h : Sql.attributes columns rows = .ok m) : m.Keyed := by
  rw [Sql.attributes] at h
  cases hcells : Sql.cells columns rows with
  | error failure => simp [hcells, Except.map] at h
  | ok cells =>
      have hparts := AttributeMap.keyed_nil.appendEach (cells.map fun c => (c.1, c.2.toList))
      rw [AttributeMap.appendEach, List.foldl_map] at hparts
      rw [hcells] at h
      cases h
      exact hparts

/-- So does an entry of a directory, which has every name once. -/
theorem DirectoryEntry.keyed_toAttributes {e : DirectoryEntry}
    (h : (e.attributes.map (·.1)).Nodup) : e.toAttributes.Keyed := by
  constructor
  · rw [AttributeMap.ids, toAttributes, List.map_map]
    exact h
  · intro entry hentry
    obtain ⟨source, -, rfl⟩ := List.mem_map.mp hentry
    rfl

/-! ## Contributions -/

namespace Memo

variable (m : Memo)

/-- Connectors keep every attribute under its own name, and definitions make the attribute of their
own name. -/
structure Keyed : Prop where
  connector : ∀ id c, m.get? id = some (.connector c) → c.attributes.Keyed
  definition : ∀ id a, m.get? id = some (.definition a) → a.id = id

/-- What a dependency contributes to an attribute, if it does: the definition of that name all of
its values, and a connector those that it has under that name. -/
def contributed? (name id : String) : Option (List Value) :=
  match m.get? id with
  | some (.definition a) => if id = name then some a.values else none
  | some (.connector c) => (c.attributes.get? name).map Attribute.values
  | none => none

/-- Dependencies without the definitions of other names. -/
def withoutOthers (dependencies : List String) (name : String) : List String :=
  dependencies.filter fun id => id = name ∨ m.definition? id = none

variable {m}

theorem dependencyAttributes_eq (dependencies : List String) :
    m.dependencyAttributes dependencies = AttributeMap.appendEach []
      ((dependencies.flatMap m.attributesOf).map fun a => (a.id, a.values)) := by
  rw [AttributeMap.appendEach, List.foldl_map]
  rfl

theorem keyed_dependencyAttributes (m : Memo) (dependencies : List String) :
    (m.dependencyAttributes dependencies).Keyed :=
  dependencyAttributes_eq dependencies ▸ AttributeMap.keyed_nil.appendEach _

/-- The attributes of one name that a dependency has are what it contributes to it. -/
theorem Keyed.contributed (h : m.Keyed) (name id : String) :
    ((m.attributesOf id).filter (·.id = name)).map Attribute.values =
      (m.contributed? name id).toList := by
  cases hid : m.get? id with
  | none => simp [attributesOf, contributed?, hid]
  | some r =>
      cases r with
      | definition a =>
          have hown := h.definition id a hid
          simp only [attributesOf, contributed?, hid]
          by_cases hname : id = name <;> simp [hown, hname]
      | connector c =>
          have hfilter := (h.connector id c hid).filter_id name
          simp only [attributesOf, contributed?, hid, hfilter]
          cases c.attributes.get? name <;> rfl

/-- What dependencies contribute to an attribute, in their order. -/
def contributions (m : Memo) (dependencies : List String) (name : String) : List Value :=
  dependencies.flatMap fun id => (m.contributed? name id).getD []

theorem Keyed.values_attributesOf (h : m.Keyed) (name id : String) :
    ((m.attributesOf id).filter (·.id = name)).flatMap Attribute.values =
      (m.contributed? name id).getD [] := by
  rw [List.flatMap_def, h.contributed]
  cases m.contributed? name id <;> simp

theorem Keyed.exists_attributeOf_iff (h : m.Keyed) {name id : String} :
    (∃ a ∈ m.attributesOf id, a.id = name) ↔ (m.contributed? name id).isSome := by
  have hmem : ∀ vs, (∃ a ∈ m.attributesOf id, a.id = name ∧ a.values = vs) ↔
      m.contributed? name id = some vs := by
    intro vs
    rw [← Option.mem_toList, ← h.contributed]
    simp [and_assoc]
  rw [Option.isSome_iff_exists]
  constructor
  · rintro ⟨a, ha, hname⟩
    exact ⟨a.values, (hmem a.values).mp ⟨a, ha, hname, rfl⟩⟩
  · rintro ⟨vs, hvs⟩
    obtain ⟨a, ha, hname, -⟩ := (hmem vs).mpr hvs
    exact ⟨a, ha, hname⟩

/-- An attribute is put together from its contributions, if there are any. -/
theorem Keyed.get?_dependencyAttributes (h : m.Keyed) (dependencies : List String)
    (name : String) :
    (m.dependencyAttributes dependencies).get? name =
      if ∃ id ∈ dependencies, (m.contributed? name id).isSome then
        some { id := name, values := m.contributions dependencies name }
      else none := by
  have hids : name ∈ (m.dependencyAttributes dependencies).ids ↔
      ∃ id ∈ dependencies, (m.contributed? name id).isSome := by
    have hnil : name ∉ AttributeMap.ids [] := List.not_mem_nil
    rw [dependencyAttributes_eq, AttributeMap.mem_ids_appendEach, or_iff_right hnil]
    simp only [← h.exists_attributeOf_iff, List.map_map, List.mem_map, List.mem_flatMap,
      Function.comp_apply]
    constructor
    · rintro ⟨a, ⟨id, hid, ha⟩, hname⟩
      exact ⟨id, hid, a, ha, hname⟩
    · rintro ⟨id, hid, a, ha, hname⟩
      exact ⟨a, ⟨id, hid, ha⟩, hname⟩
  have hvalues : ((m.dependencyAttributes dependencies).get? name).getD (.empty name) =
      { id := name, values := m.contributions dependencies name } := by
    rw [dependencyAttributes_eq, AttributeMap.getD_appendEach, List.filter_map, List.flatMap_map,
      List.filter_flatMap, List.flatMap_assoc]
    simp only [Function.comp_def, h.values_attributesOf]
    rfl
  split
  case isTrue hsome =>
    obtain ⟨a, ha⟩ := AttributeMap.mem_ids_iff.mp (hids.mpr hsome)
    rw [ha, Option.getD_some] at hvalues
    rw [ha, hvalues]
  case isFalse hnone =>
    rw [← Option.not_isSome_iff_eq_none, Option.isSome_iff_exists, ← AttributeMap.mem_ids_iff, hids]
    exact hnone

/-- Definitions of other names apart, the values of an attribute are its contributions. -/
theorem dependencyValues_withoutOthers (m : Memo) (dependencies : List String) (name : String) :
    m.dependencyValues (m.withoutOthers dependencies name) name =
      m.contributions dependencies name := by
  have hfit : ∀ id, id = name ∨ m.definition? id = none →
      m.contribution name id = (m.contributed? name id).getD [] := by
    intro id hid
    unfold contribution contributed? definition? at *
    split <;> simp_all
  have hother : ∀ id, ¬ (id = name ∨ m.definition? id = none) →
      (m.contributed? name id).getD [] = [] := by
    intro id hid
    unfold contributed? definition? at *
    split <;> simp_all
  induction dependencies with
  | nil => rfl
  | cons id rest ih =>
      rw [dependencyValues, withoutOthers] at ih ⊢
      rw [contributions, List.flatMap_cons, ← contributions, ← ih]
      by_cases hid : id = name ∨ m.definition? id = none
      · rw [List.filter_cons_of_pos (by simpa using hid), List.flatMap_cons, hfit id hid]
      · rw [List.filter_cons_of_neg (by simpa using hid), hother id hid, List.nil_append]

/-! ## The order that attributes are kept in -/

/-- The same result, with the attributes of a connector kept in another order. -/
inductive SameResult : Resolved → Resolved → Prop
  | connector {origin : String} {attributes others : AttributeMap} (h : attributes.Perm others) :
      SameResult (.connector ⟨origin, attributes⟩) (.connector ⟨origin, others⟩)
  | definition (a : Attribute) : SameResult (.definition a) (.definition a)

/-- The same results of the same plugins, up to the order that connectors keep attributes in. -/
def Reordered (m others : Memo) : Prop :=
  ∀ id, Option.Rel SameResult (m.get? id) (others.get? id)

theorem Keyed.reordered (h : m.Keyed) {others : Memo} (hothers : m.Reordered others) :
    others.Keyed where
  connector id c hc := by
    have hrel := hothers id
    rw [hc] at hrel
    generalize hid : m.get? id = r at hrel
    cases hrel with
    | some hsame =>
        cases hsame with
        | connector hperm =>
            exact (h.connector id _ hid).perm hperm
  definition id a ha := by
    have hrel := hothers id
    rw [ha] at hrel
    generalize hid : m.get? id = r at hrel
    cases hrel with
    | some hsame =>
        cases hsame with
        | definition => exact h.definition id a hid

theorem Keyed.contributed?_reordered (h : m.Keyed) {others : Memo} (hothers : m.Reordered others)
    (name id : String) : others.contributed? name id = m.contributed? name id := by
  have hrel := hothers id
  unfold contributed?
  generalize hid : m.get? id = r at hrel
  generalize others.get? id = r' at hrel
  cases hrel with
  | none => rfl
  | some hsame =>
      cases hsame with
      | definition => rfl
      | connector hperm =>
          simp only [AttributeMap.get?_perm (h.connector id _ hid).nodup hperm]

/-- An attribute of dependencies is there exactly if a dependency contributes it, and has what they
contribute to it, one after the other.  These are also its values for a definition, if dependencies
that are definitions of other names are left out.  The order that connectors keep their attributes
in makes no difference. -/
theorem dependencyAttributes_agree {m : Memo} (h : m.Keyed) (dependencies : List String)
    (name : String) :
    (name ∈ (m.dependencyAttributes dependencies).ids ↔
      ∃ id ∈ dependencies, (m.contributed? name id).isSome) ∧
    (∀ a, (m.dependencyAttributes dependencies).get? name = some a →
      a = { id := name, values := m.contributions dependencies name }) ∧
    m.dependencyValues (m.withoutOthers dependencies name) name =
      m.contributions dependencies name ∧
    (∀ others, m.Reordered others →
      (m.dependencyAttributes dependencies).Perm (others.dependencyAttributes dependencies)) := by
  have hget := h.get?_dependencyAttributes dependencies
  refine ⟨?_, fun a ha => ?_, dependencyValues_withoutOthers m dependencies name,
    fun others hothers => ?_⟩
  · rw [AttributeMap.mem_ids_iff, hget]
    split <;> simp_all
  · rw [hget] at ha
    split at ha
    case isTrue => exact (Option.some.inj ha).symm
    case isFalse => cases ha
  · refine AttributeMap.perm_of_get? (m.keyed_dependencyAttributes dependencies).nodup
      (others.keyed_dependencyAttributes dependencies).nodup fun id => ?_
    rw [hget, (h.reordered hothers).get?_dependencyAttributes]
    simp only [contributions, h.contributed?_reordered hothers]

/-- The attributes of a person in a directory. -/
def personEntries : AttributeMap :=
  [("mail", { id := "mail", values := [.string "jdoe@example.org"] }),
    ("uid", { id := "uid", values := [.string "jdoe"] })]

/-- A directory with its attributes in some order, and two definitions. -/
def personMemo (attributes : AttributeMap) : Memo :=
  ⟨[("people", .connector ⟨"people", attributes⟩),
    ("mail", .definition { id := "mail", values := [.string "john@example.org"] }),
    ("alias", .definition { id := "alias", values := [.string "johnny@example.org"] })]⟩

theorem get?_mk_cons (key id : String) (r : Resolved) (rest : List (String × Resolved)) :
    get? ⟨(key, r) :: rest⟩ id = if id = key then some r else get? ⟨rest⟩ id := by
  rw [get?, List.lookup_cons]
  by_cases h : id = key
  · rw [if_pos h, beq_iff_eq.mpr h]
  · rw [if_neg h, beq_eq_false_iff_ne.mpr h]
    rfl

theorem personMemo_keyed : (personMemo personEntries).Keyed where
  connector id c hc := by
    simp only [personMemo, get?_mk_cons] at hc
    split at hc
    case isTrue =>
      cases hc
      exact ⟨by decide, by simp [personEntries]⟩
    case isFalse => split at hc <;> [skip; split at hc] <;> cases hc
  definition id a ha := by
    simp only [personMemo, get?_mk_cons] at ha
    split at ha
    case isTrue => cases ha
    case isFalse =>
      split at ha
      case isTrue hid =>
        cases ha
        exact hid.symm
      case isFalse =>
        split at ha
        case isTrue hid =>
          cases ha
          exact hid.symm
        case isFalse => cases ha

theorem personMemo_reordered :
    (personMemo personEntries).Reordered (personMemo personEntries.reverse) := by
  intro id
  simp only [personMemo, get?_mk_cons]
  split
  case isTrue => exact .some (.connector (List.reverse_perm _).symm)
  case isFalse =>
    split
    case isTrue => exact .some (.definition _)
    case isFalse =>
      split
      case isTrue => exact .some (.definition _)
      case isFalse => exact .none

/-- Repeated dependencies, a definition of the name, one of another name and one without a
result. -/
theorem dependencyAttributes_agree_person :
    (personMemo personEntries).Keyed ∧
    ((personMemo personEntries).dependencyAttributes
        ["people", "alias", "missing", "mail", "people"]).get? "mail" =
      some { id := "mail", values := [.string "jdoe@example.org", .string "john@example.org",
        .string "jdoe@example.org"] } ∧
    (personMemo personEntries).dependencyValues ["people", "missing", "mail", "people"] "mail" =
      [.string "jdoe@example.org", .string "john@example.org", .string "jdoe@example.org"] ∧
    (personMemo personEntries).Reordered (personMemo personEntries.reverse) ∧
    ((personMemo personEntries).dependencyAttributes ["people", "mail"]).Perm
      ((personMemo personEntries.reverse).dependencyAttributes ["people", "mail"]) := by
  obtain ⟨hids, hvalues, hdefinition, -⟩ := dependencyAttributes_agree personMemo_keyed
    ["people", "alias", "missing", "mail", "people"] "mail"
  obtain ⟨-, -, -, hperm⟩ := dependencyAttributes_agree personMemo_keyed ["people", "mail"] "mail"
  obtain ⟨a, ha⟩ := AttributeMap.mem_ids_iff.mp (hids.mpr ⟨"people", by simp, rfl⟩)
  refine ⟨personMemo_keyed, ?_, hdefinition, personMemo_reordered,
    hperm _ personMemo_reordered⟩
  rw [ha, hvalues a ha]
  rfl

end Memo

end AttributeRelease
