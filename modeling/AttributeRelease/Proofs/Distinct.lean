import AttributeRelease.Distinct
import Mathlib.Data.List.Nodup

/-!
# First occurrences

Without its later repeats, a list has its members in the order in which they first occur, and it is
the only list that has.  Where no two members have one key, each is found by its key.
-/

namespace AttributeRelease

/-- The members of a list, each of them once, in the order in which they first occur. -/
structure FirstOccurrences {α : Type} [DecidableEq α] (xs ys : List α) : Prop where
  members : ∀ x, x ∈ ys ↔ x ∈ xs
  ordered : ys.Pairwise fun x y => xs.idxOf x < xs.idxOf y

theorem firstOccurrences_keepFirst {α : Type} [DecidableEq α] (xs : List α) :
    FirstOccurrences xs (keepFirst xs) := by
  refine ⟨fun x => mem_keepFirst, ?_⟩
  induction xs with
  | nil => exact .nil
  | cons first rest ih =>
      have hother : ∀ y ∈ (keepFirst rest).filter (· ≠ first), y ≠ first := fun y hy => by
        simpa using (List.mem_filter.mp hy).2
      refine List.pairwise_cons.mpr ⟨fun y hy => ?_, ?_⟩
      · rw [List.idxOf_cons_self, List.idxOf_cons_ne rest (hother y hy).symm]
        exact Nat.succ_pos _
      · refine (ih.filter _).imp_of_mem fun {x y} hx hy hlt => ?_
        rw [List.idxOf_cons_ne rest (hother x hx).symm, List.idxOf_cons_ne rest (hother y hy).symm]
        exact Nat.succ_lt_succ hlt

theorem FirstOccurrences.nodup {α : Type} [DecidableEq α] {xs ys : List α}
    (h : FirstOccurrences xs ys) : ys.Nodup := by
  apply h.ordered.imp
  rintro x y hlt rfl
  exact Nat.lt_irrefl _ hlt

/-- Only one list has the members in this order. -/
theorem firstOccurrences_iff {α : Type} [DecidableEq α] {xs ys : List α} :
    FirstOccurrences xs ys ↔ ys = keepFirst xs := by
  constructor
  · intro h
    have hkept := firstOccurrences_keepFirst xs
    have hperm : ys.Perm (keepFirst xs) := by
      apply (List.perm_ext_iff_of_nodup h.nodup hkept.nodup).mpr
      intro x
      rw [h.members, hkept.members]
    apply hperm.eq_of_pairwise ?_ h.ordered hkept.ordered
    intro x y _ _ hlt hgt
    exact absurd hgt (Nat.lt_asymm hlt)
  · rintro rfl
    exact firstOccurrences_keepFirst xs

theorem keepFirst_sublist {α : Type} [DecidableEq α] (xs : List α) : (keepFirst xs).Sublist xs := by
  induction xs with
  | nil => exact .slnil
  | cons first rest ih => exact (List.filter_sublist.trans ih).cons_cons first

/-- A pass over a list that keeps what it has not seen yet. -/
def keepUnseen {α : Type} [DecidableEq α] [Hashable α] (seen : Std.HashSet α) : List α → List α
  | [] => []
  | x :: rest =>
    if seen.contains x then keepUnseen seen rest else x :: keepUnseen (seen.insert x) rest

/-- The set grows as the pass goes on, so what it keeps is described for every set. -/
theorem keepUnseen_eq {α : Type} [DecidableEq α] [Hashable α] (seen : Std.HashSet α)
    (xs : List α) : keepUnseen seen xs = (keepFirst xs).filter fun x => !seen.contains x := by
  induction xs generalizing seen with
  | nil => rfl
  | cons x rest ih =>
      rw [keepUnseen, keepFirst]
      by_cases hx : seen.contains x = true
      · rw [if_pos hx, ih, List.filter_cons_of_neg (by simp [hx]), List.filter_filter]
        apply List.filter_congr
        intro y _
        by_cases hy : y = x
        · simp [hy, hx]
        · simp [hy]
      · rw [if_neg hx, ih, List.filter_cons_of_pos (by simp [hx]), List.filter_filter]
        congr 1
        -- what the set has more is what the first occurrence drops
        apply List.filter_congr
        intro y _
        rw [Std.HashSet.contains_insert, Bool.not_or, Bool.and_comm]
        by_cases hy : y = x
        · simp [hy]
        · simp [hy, Ne.symm hy]

/-- A pass that has seen nothing at first drops the later repeats. -/
theorem keepUnseen_empty {α : Type} [DecidableEq α] [Hashable α] (xs : List α) :
    keepUnseen ∅ xs = keepFirst xs := by
  rw [keepUnseen_eq, List.filter_eq_self]
  intro x _
  simp

/-- A member is found by its key if no other one has it. -/
theorem find?_eq_some_iff_of_nodup {α : Type} {key : α → String} {items : List α}
    (h : (items.map key).Nodup) {id : String} {a : α} :
    (items.find? fun item => key item == id) = some a ↔ a ∈ items ∧ key a = id := by
  constructor
  · intro ha
    exact ⟨List.mem_of_find?_eq_some ha, beq_iff_eq.mp (List.find?_some ha :)⟩
  · rintro ⟨ha, rfl⟩
    have hsome : (items.find? fun item => key item == key a).isSome = true :=
      List.find?_isSome.mpr ⟨a, ha, BEq.rfl⟩
    obtain ⟨b, hb⟩ := Option.isSome_iff_exists.mp hsome
    have hkey : key b = key a := beq_iff_eq.mp (List.find?_some hb :)
    rw [hb, List.inj_on_of_nodup_map h (List.mem_of_find?_eq_some hb) ha hkey]

end AttributeRelease
