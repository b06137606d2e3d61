import AttributeRelease.Number.Decimal
import Mathlib.Data.List.Basic
import Mathlib.Data.List.TakeDrop

/-!
# Decimal digits read back

The decimal digits of a natural number are digits, begin with a zero only where they stand for zero,
and denote the number.
-/

namespace AttributeRelease.Number

theorem digit?_digitChar : ∀ d < 10, digit? (Nat.digitChar d) = some d := by decide

theorem digitChar_eq_zero : ∀ d < 10, Nat.digitChar d = '0' → d = 0 := by decide

/-- The digits of a number are those of its tenth and a last one. -/
theorem toDigits_of_ten_le {n : Nat} (hn : 10 ≤ n) :
    Nat.toDigits 10 n = Nat.toDigits 10 (n / 10) ++ [Nat.digitChar (n % 10)] := by
  rw [Nat.toDigits_eq_if (by decide), if_neg (by omega)]

theorem toDigits_of_lt_ten {n : Nat} (hn : n < 10) : Nat.toDigits 10 n = [Nat.digitChar n] :=
  Nat.toDigits_of_lt_base hn

theorem isDigit_of_mem_toDigits (n : Nat) : ∀ c ∈ Nat.toDigits 10 n, isDigit c = true := by
  induction n using Nat.strongRecOn with
  | ind n ih =>
      have hdigit : ∀ d < 10, isDigit (Nat.digitChar d) = true := fun d hd => by
        rw [isDigit, digit?_digitChar d hd, Option.isSome_some]
      intro c hc
      rcases Nat.lt_or_ge n 10 with hsmall | hlarge
      · rw [toDigits_of_lt_ten hsmall, List.mem_singleton] at hc
        exact hc ▸ hdigit n hsmall
      · rw [toDigits_of_ten_le hlarge, List.mem_append, List.mem_singleton] at hc
        rcases hc with hc | rfl
        · exact ih (n / 10) (by omega) c hc
        · exact hdigit (n % 10) (Nat.mod_lt n (by decide))

theorem toDigits_eq_cons (n : Nat) : ∃ c cs, Nat.toDigits 10 n = c :: cs ∧ isDigit c = true := by
  obtain ⟨c, cs, hcons⟩ := List.exists_cons_of_ne_nil (Nat.toDigits_ne_nil (n := n) (b := 10))
  exact ⟨c, cs, hcons, isDigit_of_mem_toDigits n c (hcons ▸ List.mem_cons_self)⟩

theorem eq_zero_of_head?_toDigits {n : Nat} (h : (Nat.toDigits 10 n).head? = some '0') : n = 0 := by
  induction n using Nat.strongRecOn with
  | ind n ih =>
      rcases Nat.lt_or_ge n 10 with hsmall | hlarge
      · rw [toDigits_of_lt_ten hsmall, List.head?_cons, Option.some.injEq] at h
        exact digitChar_eq_zero n hsmall h
      · rw [toDigits_of_ten_le hlarge, List.head?_append_of_ne_nil _ Nat.toDigits_ne_nil] at h
        have htenth := ih (n / 10) (by omega) h
        omega

theorem natOfDigits_append (n : Nat) (cs ds : List Char) :
    natOfDigits n (cs ++ ds) = natOfDigits (natOfDigits n cs) ds := List.foldl_append

theorem natOfDigits_toDigits (n : Nat) : natOfDigits 0 (Nat.toDigits 10 n) = n := by
  have hlast : ∀ m d, d < 10 → natOfDigits m [Nat.digitChar d] = 10 * m + d := fun m d hd => by
    rw [natOfDigits, List.foldl_cons, List.foldl_nil, digit?_digitChar d hd, Option.getD_some]
  induction n using Nat.strongRecOn with
  | ind n ih =>
      rcases Nat.lt_or_ge n 10 with hsmall | hlarge
      · rw [toDigits_of_lt_ten hsmall, hlast 0 n hsmall, Nat.mul_zero, Nat.zero_add]
      · rw [toDigits_of_ten_le hlarge, natOfDigits_append, ih (n / 10) (by omega),
          hlast _ _ (Nat.mod_lt n (by decide)), Nat.div_add_mod]

/-- Digits before something else are found as a whole. -/
theorem spanDigits_append {ds rest : List Char} (hds : ∀ c ∈ ds, isDigit c = true)
    (hrest : ∀ c ∈ rest.head?, isDigit c = false) : spanDigits (ds ++ rest) = (ds, rest) := by
  have hstop : rest.takeWhile isDigit = [] ∧ rest.dropWhile isDigit = rest := by
    cases rest with
    | nil => exact ⟨rfl, rfl⟩
    | cons c rest =>
        have hc : ¬ isDigit c = true := Bool.eq_false_iff.mp (hrest c rfl)
        exact ⟨List.takeWhile_cons_of_neg hc, List.dropWhile_cons_of_neg hc⟩
  rw [spanDigits, List.span_eq_takeWhile_dropWhile, List.takeWhile_append_of_pos hds,
    List.dropWhile_append_of_pos hds, hstop.1, hstop.2, List.append_nil]

end AttributeRelease.Number
