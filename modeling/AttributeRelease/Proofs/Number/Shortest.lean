import AttributeRelease.Number.Shortest
import AttributeRelease.Proofs.Number.Rounding
import Mathlib.Data.Nat.Cast.Order.Field

/-!
# Shortest digits

The digits that are chosen for a double precision number lie nearest to it, so they are rounded to
that very number.  Seventeen digits are enough to find some, since a grid of so many is finer than
the numbers are.
-/

namespace AttributeRelease.Number

/-- The number that digits denote. -/
def Digits.value (d : Digits) : ℚ := d.digits * 10 ^ d.exponent

/-! ## Counting digits -/

theorem lt_pow_digitCount (n : Nat) : n < 10 ^ digitCount n :=
  (Nat.length_toDigits_le_iff (by decide) Nat.length_toDigits_pos).mp le_rfl

theorem pow_digitCount_le {n : Nat} (hn : n ≠ 0) : 10 ^ (digitCount n - 1) ≤ n := by
  rcases Nat.eq_zero_or_pos (digitCount n - 1) with hone | hmore
  · rw [hone, pow_zero]
    omega
  · by_contra! hlt
    have hle := (Nat.length_toDigits_le_iff (b := 10) (by decide) hmore).mpr hlt
    rw [digitCount] at hle hmore
    omega

theorem powerOfTen_eq (e : Int) :
    0 < (powerOfTen e).1 ∧ 0 < (powerOfTen e).2 ∧
      ((powerOfTen e).1 : ℚ) / (powerOfTen e).2 = 10 ^ e := by
  have hpos : ∀ k, 0 < Nat.pow 10 k := fun k => Nat.pow_pos (by decide)
  by_cases he : 0 ≤ e
  · rw [powerOfTen, if_pos he]
    refine ⟨hpos _, Nat.one_pos, ?_⟩
    rw [cast_pow_toNat 10 he, Nat.cast_one, div_one]
    rfl
  · rw [powerOfTen, if_neg he]
    refine ⟨Nat.one_pos, hpos _, ?_⟩
    rw [cast_pow_toNat 10 (by omega), Nat.cast_one, zpow_neg, one_div, inv_inv]
    rfl

/-- A ratio is compared with a power of ten. -/
theorem powerOfTen_le_iff (num : Nat) {den : Nat} (hden : 0 < den) (e : Int) :
    (powerOfTen e).1 * den ≤ num * (powerOfTen e).2 ↔ (10 : ℚ) ^ e ≤ num / den := by
  obtain ⟨-, hr, heq⟩ := powerOfTen_eq e
  have hden : (0 : ℚ) < den := by exact_mod_cast hden
  have hr : (0 : ℚ) < (powerOfTen e).2 := by exact_mod_cast hr
  rw [← heq, div_le_div_iff₀ hr hden]
  exact_mod_cast Iff.rfl

/-- A ratio is no less than the power of ten that its first digit stands for. -/
theorem decimalExponent_le {num den : Nat} (hnum : num ≠ 0) (hden : 0 < den) :
    (10 : ℚ) ^ decimalExponent num den ≤ (num : ℚ) / den := by
  have hpos : (0 : ℚ) < den := by exact_mod_cast hden
  rw [decimalExponent]
  generalize hguess : (if den ≤ num then (digitCount (num / den) : Int) - 1
    else -(digitCount (den / num) : Int)) = guess
  have hle : (10 : ℚ) ^ guess ≤ (num : ℚ) / den := by
    subst hguess
    split
    case isTrue hle =>
      have hcount : 10 ^ (digitCount (num / den) - 1) ≤ num / den :=
        pow_digitCount_le (Nat.div_pos hle hden).ne'
      rw [← Nat.cast_pred (n := digitCount _) Nat.length_toDigits_pos, zpow_natCast]
      exact le_trans (by exact_mod_cast hcount) Nat.cast_div_le
    case isFalse =>
      have hcount : den < 10 ^ digitCount (den / num) * num :=
        (Nat.div_lt_iff_lt_mul (Nat.pos_of_ne_zero hnum)).mp (lt_pow_digitCount _)
      rw [zpow_neg, zpow_natCast, inv_le_iff_one_le_mul₀' (by positivity), mul_div_assoc',
        one_le_div hpos]
      exact_mod_cast hcount.le
  have hnext := powerOfTen_le_iff num hden (guess + 1)
  dsimp only
  split
  case isTrue h => exact hnext.mp h
  case isFalse => exact hle

/-! ## Grids -/

/-- A number lies between two others, at one of them only if the ends are included. -/
structure Between (low high : ℚ) (ends : Bool) (r : ℚ) : Prop where
  low_le : low ≤ r
  le_high : r ≤ high
  inner : ends = false → low < r ∧ r < high

theorem liesBetween_iff {lo hi den : Nat} (hden : 0 < den) {ends : Bool} {d : Nat} {e : Int} :
    liesBetween lo hi den ends d e = true ↔
      Between ((lo : ℚ) / den) ((hi : ℚ) / den) ends (d * 10 ^ e) := by
  obtain ⟨-, hr, heq⟩ := powerOfTen_eq e
  have hden : (0 : ℚ) < den := by exact_mod_cast hden
  have hr : (0 : ℚ) < (powerOfTen e).2 := by exact_mod_cast hr
  have hle : ∀ n : Nat, (n : ℚ) / den ≤ d * 10 ^ e ↔
      n * (powerOfTen e).2 ≤ d * (powerOfTen e).1 * den := by
    intro n
    rw [← heq, mul_div_assoc', div_le_div_iff₀ hden hr]
    exact_mod_cast Iff.rfl
  have hge : ∀ n : Nat, d * 10 ^ e ≤ (n : ℚ) / den ↔
      d * (powerOfTen e).1 * den ≤ n * (powerOfTen e).2 := by
    intro n
    rw [← heq, mul_div_assoc', div_le_div_iff₀ hr hden]
    exact_mod_cast Iff.rfl
  cases ends with
  | true =>
    simp only [liesBetween, if_true, Bool.and_eq_true, decide_eq_true_eq]
    exact ⟨fun h => ⟨(hle lo).mpr h.1, (hge hi).mpr h.2, nofun⟩,
      fun h => ⟨(hle lo).mp h.low_le, (hge hi).mp h.le_high⟩⟩
  | false =>
    simp only [liesBetween, Bool.false_eq_true, if_false, Bool.and_eq_true, decide_eq_true_eq]
    have hlt := not_congr (hge lo)
    have hgt := not_congr (hle hi)
    rw [not_le, Nat.not_le] at hlt hgt
    rw [← hlt, ← hgt]
    exact ⟨fun h => ⟨h.1.le, h.2.le, fun _ => h⟩, fun h => h.inner rfl⟩

/-- The two neighbours of a ratio on a grid. -/
theorem grid_neighbours (num : Nat) {den : Nat} (hden : 0 < den) (e : Int) :
    ((num * (powerOfTen e).2 / ((powerOfTen e).1 * den) : Nat) : ℚ) * 10 ^ e ≤ (num : ℚ) / den ∧
      (num : ℚ) / den <
        ((num * (powerOfTen e).2 / ((powerOfTen e).1 * den) + 1 : Nat) : ℚ) * 10 ^ e := by
  obtain ⟨hp, hr, heq⟩ := powerOfTen_eq e
  have hpos : 0 < (powerOfTen e).1 * den := Nat.mul_pos hp hden
  have hden : (0 : ℚ) < den := by exact_mod_cast hden
  have hr : (0 : ℚ) < (powerOfTen e).2 := by exact_mod_cast hr
  rw [← heq, mul_div_assoc', mul_div_assoc', div_le_div_iff₀ hr hden, div_lt_div_iff₀ hden hr,
    mul_assoc, mul_assoc]
  constructor
  · exact_mod_cast Nat.div_mul_le_self _ _
  · exact_mod_cast (Nat.div_lt_iff_lt_mul hpos).mp (Nat.lt_succ_self _)

/-- Around a ratio there is a point of every grid that is finer than what the ratio lies between is
wide. -/
theorem Between.of_neighbours {low high r a b : ℚ} {ends : Bool} (hlow : low < r) (hhigh : r < high)
    (ha : a ≤ r) (hb : r < b) (hfine : b - a < high - low) :
    Between low high ends a ∨ Between low high ends b := by
  by_cases h : low < a
  · have hlt : a < high := ha.trans_lt hhigh
    exact .inl ⟨h.le, hlt.le, fun _ => ⟨h, hlt⟩⟩
  · have hlt : b < high := by linarith
    have hgt : low < b := hlow.trans hb
    exact .inr ⟨hgt.le, hlt.le, fun _ => ⟨hgt, hlt⟩⟩

section Search

variable {num den lo hi half : Nat} {ends : Bool} {top : Int}

/-- On a grid either a point is found, or the grid is no finer than what the point is to lie between
is wide, and the next grid is searched. -/
theorem shortestFrom_cases (hden : 0 < den) (hhalf : 0 < half)
    (hlow : (lo : ℚ) / half < (num : ℚ) / den) (hhigh : (num : ℚ) / den < (hi : ℚ) / half)
    (room count : Nat) :
    Between ((lo : ℚ) / half) ((hi : ℚ) / half) ends
      (shortestFrom num den lo hi half ends top (room + 1) count).value ∨
    ((hi : ℚ) / half - (lo : ℚ) / half ≤ 10 ^ (top - count + 1) ∧
      shortestFrom num den lo hi half ends top (room + 1) count =
        shortestFrom num den lo hi half ends top room (count + 1)) := by
  obtain ⟨hfloor, hceil⟩ := grid_neighbours num hden (top - count + 1)
  have hpoint : ∀ d : Nat, liesBetween lo hi half ends d (top - count + 1) = true →
      Between ((lo : ℚ) / half) ((hi : ℚ) / half) ends (d * 10 ^ (top - count + 1)) :=
    fun d => (liesBetween_iff hhalf).mp
  rw [shortestFrom]
  dsimp only
  generalize num * (powerOfTen (top - count + 1)).2 / ((powerOfTen (top - count + 1)).1 * den) = d
    at hfloor hceil ⊢
  split
  case isTrue h =>
    rw [Bool.and_eq_true] at h
    left
    split
    case isTrue => exact hpoint _ h.2
    case isFalse => exact hpoint _ h.1
  case isFalse =>
    split
    case isTrue h => exact .inl (hpoint _ h)
    case isFalse hfalse =>
      split
      case isTrue h => exact .inl (hpoint _ h)
      case isFalse habsent =>
        refine .inr ⟨?_, rfl⟩
        by_contra! hfine
        rcases Between.of_neighbours hlow hhigh hfloor hceil (by push_cast; linarith)
          with hfound | hfound
        · exact hfalse ((liesBetween_iff hhalf).mpr hfound)
        · exact habsent ((liesBetween_iff hhalf).mpr hfound)

/-- A point is found if the last grid is fine enough. -/
theorem between_shortestFrom (hden : 0 < den) (hhalf : 0 < half)
    (hlow : (lo : ℚ) / half < (num : ℚ) / den) (hhigh : (num : ℚ) / den < (hi : ℚ) / half)
    {room count : Nat}
    (hfine : (10 : ℚ) ^ (top - (room + count : Nat) + 1) < (hi : ℚ) / half - (lo : ℚ) / half) :
    Between ((lo : ℚ) / half) ((hi : ℚ) / half) ends
      (shortestFrom num den lo hi half ends top (room + 1) count).value := by
  -- On the grids that are left, of which only the last one is known to be fine enough.
  induction room generalizing count with
  | zero =>
    rcases shortestFrom_cases hden hhalf hlow hhigh 0 count with hfound | ⟨hcoarse, -⟩
    · exact hfound
    · rw [Nat.zero_add] at hfine
      exact absurd hcoarse (not_le.mpr hfine)
  | succ room ih =>
    rcases shortestFrom_cases hden hhalf hlow hhigh (room + 1) count with hfound | ⟨-, heq⟩
    · exact hfound
    · rw [heq]
      rw [Nat.add_right_comm] at hfine
      exact ih hfine

end Search

theorem Digits.value_strip (n : Nat) (d : Digits) : (strip n d).value = d.value := by
  induction n generalizing d with
  | zero => rfl
  | succ n ih =>
    rw [strip]
    split
    case isTrue h =>
      have hdigits : ((d.digits / 10 : Nat) : ℚ) * 10 = d.digits := by
        exact_mod_cast Nat.div_mul_cancel (Nat.dvd_of_mod_eq_zero h.2)
      rw [ih, Digits.value, Digits.value, zpow_add_one₀ (by norm_num), ← hdigits]
      ring
    case isFalse => rfl

/-! ## Double precision numbers -/

theorem scaleRatio_snd (m n den : Nat) (q : Int) :
    (scaleRatio m den q).2 = (scaleRatio n den q).2 := by
  rw [scaleRatio, scaleRatio]
  split <;> rfl

namespace Binary64

variable {x : Binary64}

/-- The size of a finite number. -/
def magnitude (x : Binary64) : ℚ := x.significand * 2 ^ x.scale

theorem below_pos (x : Binary64) : 0 < x.below := by
  rw [below]
  split <;> decide

theorem below_le (h : x.significand ≠ 0) : x.below ≤ 4 * x.significand := by
  rw [below]
  split <;> omega

/-- The neighbours of a number are further away than a unit in its seventeenth digit. -/
theorem significand_lt_below (x : Binary64) :
    (x.significand : ℚ) / 10 ^ 16 < (x.below + 2) / 4 := by
  rw [div_lt_iff₀ (by positivity), below]
  split
  case isTrue h =>
    have hpower : x.significand = 2 ^ 52 := by
      rw [significand, if_neg (by omega), h.1]
      rfl
    rw [hpower]
    norm_num
  case isFalse =>
    have hlt : (x.significand : ℚ) < 2 ^ 53 := by exact_mod_cast x.significand_lt
    have hroom : (2 : ℚ) ^ 53 < 10 ^ 16 := by norm_num
    push_cast
    linarith

theorem Nearest.of_between {r : ℚ} (hsignificand : x.significand ≠ 0)
    (h : Between (((4 * x.significand - x.below : Nat) : ℚ) / 4 * 2 ^ x.scale)
      (((4 * x.significand + 2 : Nat) : ℚ) / 4 * 2 ^ x.scale) (x.significand % 2 = 0) r) :
    Nearest x r := by
  have hunit : (0 : ℚ) < 2 ^ x.scale := by positivity
  have hlow := h.low_le
  have hhigh := h.le_high
  have hinner := h.inner
  rw [← le_div_iff₀ hunit, Nat.cast_sub (below_le hsignificand)] at hlow
  rw [← div_le_iff₀ hunit] at hhigh
  rw [← lt_div_iff₀ hunit, ← div_lt_iff₀ hunit, Nat.cast_sub (below_le hsignificand)] at hinner
  push_cast at hlow hhigh hinner
  refine ⟨by linarith, by linarith, fun hodd => ?_⟩
  obtain ⟨hlow, hhigh⟩ := hinner (by simp [hodd])
  exact ⟨by linarith, by linarith⟩

/-- The digits that are chosen lie nearest to the number. -/
theorem nearest_shortest (h : x.significand ≠ 0) : x.Nearest x.shortest.value := by
  have hunit : (0 : ℚ) < 2 ^ x.scale := by positivity
  have hquarter : ∀ n, ((scaleRatio n 1 (2 - x.scale)).1 : ℚ) /
      (scaleRatio (4 * x.significand) 1 (2 - x.scale)).2 = n / 4 * 2 ^ x.scale := by
    intro n
    rw [scaleRatio_snd _ n, (scaleRatio_eq n Nat.one_pos (2 - x.scale)).2, zpow_sub₀ two_ne_zero]
    field_simp
    norm_num
  have hden := (scaleRatio_eq (4 * x.significand) Nat.one_pos (2 - x.scale)).1
  have hbelow : (if decide (x.fractionBits = 0 ∧ 1 < x.exponentBits) = true then 1 else 2) =
      x.below := by simp [below]
  have hnum : (scaleRatio (4 * x.significand) 1 (2 - x.scale)).1 ≠ 0 := by
    intro hzero
    have hsame := hquarter (4 * x.significand)
    rw [hzero] at hsame
    simp [h] at hsame
    exact hunit.ne' hsame
  have htop := decimalExponent_le hnum hden
  rw [hquarter] at htop
  rw [shortest]
  dsimp only
  rw [Digits.value_strip, hbelow]
  refine Nearest.of_between h ?_
  rw [← hquarter, ← hquarter]
  have hpos := x.below_pos
  refine between_shortestFrom hden hden ?_ ?_ ?_
  · rw [hquarter, hquarter]
    gcongr
    omega
  · rw [hquarter, hquarter]
    gcongr
    omega
  · rw [hquarter, hquarter, Nat.cast_sub (below_le h)]
    generalize decimalExponent _ _ = top at htop ⊢
    calc (10 : ℚ) ^ (top - (16 + 1 : Nat) + 1) = 10 ^ top / 10 ^ 16 := by
          rw [sub_add, zpow_sub₀ (by norm_num)]
          norm_num
      _ ≤ ((4 * x.significand : Nat) : ℚ) / 4 * 2 ^ x.scale / 10 ^ 16 := by gcongr
      _ = (x.significand : ℚ) / 10 ^ 16 * 2 ^ x.scale := by
          push_cast
          ring
      _ < (x.below + 2) / 4 * 2 ^ x.scale :=
          mul_lt_mul_of_pos_right x.significand_lt_below hunit
      _ = ((4 * x.significand + 2 : Nat) : ℚ) / 4 * 2 ^ x.scale -
          (((4 * x.significand : Nat) : ℚ) - x.below) / 4 * 2 ^ x.scale := by
          push_cast
          ring

end Binary64

end AttributeRelease.Number
