/-!
# Lists without repeats

Of equal members of a list, the first one stays.
-/

namespace AttributeRelease

/-- A list without the later repeats of its members. -/
def keepFirst {α : Type} [DecidableEq α] : List α → List α
  | [] => []
  | x :: rest => x :: (keepFirst rest).filter (· ≠ x)

/-- Members stay members. -/
theorem mem_keepFirst {α : Type} [DecidableEq α] {x : α} {xs : List α} :
    x ∈ keepFirst xs ↔ x ∈ xs := by
  induction xs with
  | nil => simp [keepFirst]
  | cons y rest ih => by_cases h : x = y <;> simp [keepFirst, ih, h]

/-- No member is left twice. -/
theorem nodup_keepFirst {α : Type} [DecidableEq α] (xs : List α) : (keepFirst xs).Nodup := by
  induction xs with
  | nil => simp [keepFirst]
  | cons y rest ih => exact List.nodup_cons.2 ⟨by simp, ih.filter _⟩

/-- A list without repeats stays as it is. -/
theorem keepFirst_of_nodup {α : Type} [DecidableEq α] {xs : List α} (h : xs.Nodup) :
    keepFirst xs = xs := by
  induction xs with
  | nil => rfl
  | cons y rest ih =>
    obtain ⟨hy, hrest⟩ := List.nodup_cons.1 h
    rw [keepFirst, ih hrest, List.filter_eq_self.2]
    intro x hx
    have : x ≠ y := fun e => hy (e ▸ hx)
    simpa using this

/-- A second pass finds nothing to drop. -/
theorem keepFirst_keepFirst {α : Type} [DecidableEq α] (xs : List α) :
    keepFirst (keepFirst xs) = keepFirst xs := keepFirst_of_nodup (nodup_keepFirst xs)

end AttributeRelease
