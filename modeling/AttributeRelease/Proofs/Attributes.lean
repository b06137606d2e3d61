import AttributeRelease.Attribute
import AttributeRelease.Proofs.Distinct

/-!
# Values of attributes

An attribute loses the later repeats of its values, all at once, and nothing else.

Values are appended to attributes list after list, and an attribute that is not there is made with
the name that the values are given for.  So what is put together in this way has every attribute
once and under its own name, and the values of each are those that were given for it, in order.
-/

namespace AttributeRelease

open AttributeRelease.Number (Binary64)

/-! ## Repeated values -/

theorem Attribute.length_dedup (a : Attribute) :
    a.dedup.values.length + a.repeats = a.values.length :=
  Nat.add_sub_of_le (keepFirst_sublist a.values).length_le

theorem Attribute.dedup_dedup (a : Attribute) : a.dedup.dedup = a.dedup := by
  rw [dedup, dedup, keepFirst_keepFirst]

theorem Attribute.repeats_dedup (a : Attribute) : a.dedup.repeats = 0 := by
  rw [repeats, dedup, keepFirst_keepFirst, Nat.sub_self]

/-- What is left of the values is what a pass keeps that has seen those before, by whatever hash:
each of them once, in the order in which they first occur.  The others are counted, and a second
time there are none.  Numbers are the same value only if all their bits are, so the two zeros are
not. -/
theorem Attribute.dedup_keeps_first [Hashable Value] (a : Attribute) :
    a.dedup.values = keepUnseen ∅ a.values ∧
    FirstOccurrences a.values a.dedup.values ∧ a.dedup.values.Nodup ∧
    a.dedup.values.Sublist a.values ∧ a.dedup.values.length + a.repeats = a.values.length ∧
    a.dedup.id = a.id ∧ a.dedup.comparator = a.comparator ∧
    a.dedup.dedup = a.dedup ∧ a.dedup.repeats = 0 ∧
    (∀ x y : Binary64, Value.double x = .double y ↔ x.bits = y.bits) ∧
    Value.double (.zero false) ≠ .double (.zero true) := by
  refine ⟨(keepUnseen_empty a.values).symm, firstOccurrences_keepFirst a.values,
    nodup_keepFirst a.values, keepFirst_sublist a.values, a.length_dedup, rfl, rfl, a.dedup_dedup,
    a.repeats_dedup, ?_, by decide⟩
  rintro ⟨x⟩ ⟨y⟩
  simp only [Value.double.injEq, Binary64.mk.injEq]

/-! ## Attributes by their names -/

namespace AttributeMap

/-- No two attributes have one key, and every attribute is kept under its own name. -/
structure Keyed (m : AttributeMap) : Prop where
  nodup : m.ids.Nodup
  own : ∀ entry ∈ m, entry.2.id = entry.1

theorem keyed_nil : Keyed [] := ⟨List.nodup_nil, fun _ hentry => nomatch hentry⟩

/-! ## Look-ups -/

theorem get?_eq_some_iff {m : AttributeMap} (h : m.ids.Nodup) {id : String} {a : Attribute} :
    m.get? id = some a ↔ (id, a) ∈ m := by
  induction m with
  | nil => simp [get?]
  | cons entry rest ih =>
      obtain ⟨key, b⟩ := entry
      obtain ⟨hkey, hrest⟩ := List.nodup_cons.mp h
      rw [get?_cons, List.mem_cons, Prod.mk.injEq]
      by_cases hid : key = id
      · have hnot : (id, a) ∉ rest := fun hmem =>
          hkey (List.mem_map.mpr ⟨(id, a), hmem, hid.symm⟩)
        simp [hid, hnot, eq_comm]
      · simp [hid, Ne.symm hid, ih hrest]

theorem Keyed.id_of_get? {m : AttributeMap} (h : m.Keyed) {id : String} {a : Attribute}
    (ha : m.get? id = some a) : a.id = id :=
  h.own (id, a) ((get?_eq_some_iff h.nodup).mp ha)

/-- A look-up does not depend on the order that the attributes are kept in. -/
theorem get?_perm {m others : AttributeMap} (h : m.ids.Nodup) (hperm : m.Perm others)
    (id : String) : others.get? id = m.get? id := by
  have hothers : others.ids.Nodup := (hperm.map _).nodup_iff.mp h
  refine Option.ext fun a => ?_
  rw [get?_eq_some_iff hothers, get?_eq_some_iff h, hperm.mem_iff]

/-- Maps of which all look-ups are the same differ in their order only. -/
theorem perm_of_get? {m others : AttributeMap} (h : m.ids.Nodup) (hothers : others.ids.Nodup)
    (heq : ∀ id, others.get? id = m.get? id) : m.Perm others := by
  have hentries : m.Nodup := .of_map _ h
  refine (List.perm_ext_iff_of_nodup hentries (.of_map _ hothers)).mpr fun entry => ?_
  rw [← get?_eq_some_iff h, ← get?_eq_some_iff hothers, heq]

theorem Keyed.perm {m others : AttributeMap} (h : m.Keyed) (hperm : m.Perm others) :
    others.Keyed :=
  ⟨(hperm.map _).nodup_iff.mp h.nodup, fun entry hentry => h.own entry (hperm.mem_iff.mpr hentry)⟩

/-- The attributes of a name are the one that is kept under it. -/
theorem Keyed.filter_id {m : AttributeMap} (h : m.Keyed) (id : String) :
    (m.map (·.2)).filter (·.id = id) = (m.get? id).toList := by
  induction m with
  | nil => rfl
  | cons entry rest ih =>
      obtain ⟨key, a⟩ := entry
      obtain ⟨hkey, hrest⟩ := List.nodup_cons.mp h.nodup
      have hown : a.id = key := h.own (key, a) List.mem_cons_self
      have hmore := ih ⟨hrest, fun entry hentry => h.own entry (List.mem_cons_of_mem _ hentry)⟩
      rw [List.map_cons, get?_cons]
      by_cases hid : key = id
      · have hnone : get? rest id = none := by
          rw [← Option.not_isSome_iff_eq_none, Option.isSome_iff_exists, ← mem_ids_iff, ← hid]
          exact hkey
        simp [hown, hid, hmore, hnone]
      · simp [hown, hid, hmore]

/-! ## Appended values -/

theorem mem_insert {m : AttributeMap} {id : String} {a : Attribute} {entry : String × Attribute}
    (h : entry ∈ m.insert id a) : entry = (id, a) ∨ entry ∈ m := by
  induction m with
  | nil => exact .inl (List.mem_singleton.mp h)
  | cons first rest ih =>
      obtain ⟨key, b⟩ := first
      rw [insert] at h
      split at h
      case isTrue hkey =>
        rcases List.mem_cons.mp h with rfl | hrest
        · exact .inl (by rw [hkey])
        · exact .inr (List.mem_cons_of_mem _ hrest)
      case isFalse =>
        rcases List.mem_cons.mp h with rfl | hrest
        · exact .inr List.mem_cons_self
        · exact (ih hrest).imp_right (List.mem_cons_of_mem _)

theorem Keyed.append {m : AttributeMap} (h : m.Keyed) (id : String) (values : List Value) :
    (m.append id values).Keyed := by
  refine ⟨nodup_ids_insert h.nodup id _, fun entry hentry => ?_⟩
  rcases mem_insert hentry with rfl | hold
  · cases ha : m.get? id with
    | none => rfl
    | some a =>
        have hid : a.id = id := h.id_of_get? ha
        exact hid
  · exact h.own entry hold

/-- Appends the given values for each name, one after the other. -/
def appendEach (m : AttributeMap) (parts : List (String × List Value)) : AttributeMap :=
  parts.foldl (fun m part => m.append part.1 part.2) m

theorem appendEach_cons (m : AttributeMap) (part : String × List Value)
    (rest : List (String × List Value)) :
    m.appendEach (part :: rest) = (m.append part.1 part.2).appendEach rest := rfl

theorem nodup_ids_appendEach {m : AttributeMap} (h : m.ids.Nodup)
    (parts : List (String × List Value)) : (m.appendEach parts).ids.Nodup := by
  induction parts generalizing m with
  | nil => exact h
  | cons part rest ih => exact ih (nodup_ids_insert h part.1 _)

theorem Keyed.appendEach {m : AttributeMap} (h : m.Keyed) (parts : List (String × List Value)) :
    (m.appendEach parts).Keyed := by
  induction parts generalizing m with
  | nil => exact h
  | cons part rest ih => exact ih (h.append part.1 part.2)

theorem mem_ids_appendEach {m : AttributeMap} {parts : List (String × List Value)} {id : String} :
    id ∈ (m.appendEach parts).ids ↔ id ∈ m.ids ∨ id ∈ parts.map (·.1) := by
  induction parts generalizing m with
  | nil => simp [AttributeMap.appendEach]
  | cons part rest ih =>
      rw [appendEach_cons, ih, AttributeMap.append, mem_ids_insert, List.map_cons, List.mem_cons,
        or_assoc, or_left_comm]

/-- A name has what it had, and behind it all values that were given for it. -/
theorem getD_appendEach (m : AttributeMap) (parts : List (String × List Value)) (id : String) :
    ((m.appendEach parts).get? id).getD (.empty id) =
      ((m.get? id).getD (.empty id)).extend ((parts.filter (·.1 = id)).flatMap (·.2)) := by
  induction parts generalizing m with
  | nil => simp [AttributeMap.appendEach, Attribute.extend]
  | cons part rest ih =>
      rw [appendEach_cons, ih]
      by_cases hid : part.1 = id
      · subst hid
        rw [get?_append_self, Option.getD_some]
        simp [Attribute.extend]
      · rw [get?_append_of_ne m hid]
        simp [hid]

end AttributeMap

end AttributeRelease
