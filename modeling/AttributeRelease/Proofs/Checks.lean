import Mathlib.Data.List.Basic
import Mathlib.Data.List.Forall2

/-!
# Checks one after the other

A check of several things fails where the first of them does, so it succeeds where all of them do.
-/

namespace AttributeRelease

variable {ε ε' α β : Type}

theorem andThen_eq_ok_iff {check : Except ε Unit} {next : Except ε α} {a : α} :
    (check >>= fun _ => next) = .ok a ↔ check = .ok () ∧ next = .ok a := by
  cases check with
  | error e => simp [bind, Except.bind]
  | ok u => simp [bind, Except.bind]

/-- Another form of the error makes no difference to a success. -/
theorem mapError_eq_ok_iff {f : ε → ε'} {result : Except ε α} {a : α} :
    result.mapError f = .ok a ↔ result = .ok a := by
  cases result <;> simp [Except.mapError]

theorem forM_eq_ok_iff {check : β → Except ε Unit} {items : List β} :
    items.forM check = .ok () ↔ ∀ b ∈ items, check b = .ok () := by
  induction items with
  | nil => simp [pure, Except.pure]
  | cons b rest ih =>
      have hcons : (b :: rest).forM check = (check b >>= fun _ => rest.forM check) := rfl
      rw [hcons, andThen_eq_ok_iff, ih, List.forall_mem_cons]

/-! ## Results in a row -/

theorem mapM_cons_ok {f : α → Except ε β} {a : α} {rest : List α} {b : β} (h : f a = .ok b) :
    (a :: rest).mapM f = (rest.mapM f).map (b :: ·) := by
  rw [List.mapM_cons, h]
  cases rest.mapM f <;> rfl

theorem mapM_eq_ok_iff {f : α → Except ε β} {items : List α} {results : List β} :
    items.mapM f = .ok results ↔ List.Forall₂ (fun a b => f a = .ok b) items results := by
  induction items generalizing results with
  | nil => simp [pure, Except.pure, eq_comm]
  | cons a rest ih =>
      rw [List.forall₂_cons_left_iff]
      cases ha : f a with
      | error e => simp [List.mapM_cons, ha, bind, Except.bind]
      | ok b =>
          rw [mapM_cons_ok ha]
          cases hrest : rest.mapM f with
          | error e => simp [Except.map, ← ih, hrest]
          | ok bs => simp [Except.map, ← ih, hrest, eq_comm]

theorem exists_of_mapM_eq_ok {f : α → Except ε β} {items : List α} {results : List β}
    (h : items.mapM f = .ok results) {a : α} (ha : a ∈ items) : ∃ b, f a = .ok b := by
  have hall := mapM_eq_ok_iff.mp h
  clear h
  induction hall with
  | nil => cases ha
  | cons hfirst _ ih =>
      rcases List.mem_cons.mp ha with rfl | hrest
      · exact ⟨_, hfirst⟩
      · exact ih hrest

/-- The first item that fails does so for all. -/
theorem mapM_eq_error_iff {f : α → Except ε β} {items : List α} {e : ε} :
    items.mapM f = .error e ↔ ∃ before a after, items = before ++ a :: after ∧
      (∀ b ∈ before, ∃ result, f b = .ok result) ∧ f a = .error e := by
  induction items with
  | nil => simp [pure, Except.pure]
  | cons a rest ih =>
      constructor
      · intro h
        cases ha : f a with
        | error e' =>
            rw [List.mapM_cons, ha] at h
            cases h
            exact ⟨[], a, rest, rfl, by simp, ha⟩
        | ok b =>
            rw [mapM_cons_ok ha] at h
            cases hrest : rest.mapM f with
            | ok bs => simp [hrest, Except.map] at h
            | error e' =>
                rw [hrest] at h
                cases h
                obtain ⟨before, c, after, rfl, hbefore, hc⟩ := ih.mp hrest
                exact ⟨a :: before, c, after, rfl,
                  List.forall_mem_cons.mpr ⟨⟨b, ha⟩, hbefore⟩, hc⟩
      · rintro ⟨before, c, after, heq, hbefore, hc⟩
        cases before with
        | nil =>
            cases heq
            rw [List.mapM_cons, hc]
            rfl
        | cons b before =>
            cases heq
            obtain ⟨⟨result, ha⟩, hbefore⟩ := List.forall_mem_cons.mp hbefore
            rw [mapM_cons_ok ha, ih.mpr ⟨before, c, after, rfl, hbefore, hc⟩]
            rfl

/-- There are results if and only if every item has one. -/
theorem exists_mapM_eq_ok_iff {f : α → Except ε β} {items : List α} :
    (∃ results, items.mapM f = .ok results) ↔ ∀ a ∈ items, ∃ b, f a = .ok b := by
  constructor
  · rintro ⟨results, h⟩ a ha
    exact exists_of_mapM_eq_ok h ha
  · intro h
    cases hitems : items.mapM f with
    | ok results => exact ⟨results, rfl⟩
    | error e =>
        obtain ⟨before, a, after, rfl, -, ha⟩ := mapM_eq_error_iff.mp hitems
        obtain ⟨b, hb⟩ := h a (List.mem_append_right before List.mem_cons_self)
        rw [hb] at ha
        cases ha

end AttributeRelease
