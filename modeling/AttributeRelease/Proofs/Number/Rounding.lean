import AttributeRelease.Number.Binary64
import Mathlib.Algebra.Order.Field.Basic
import Mathlib.Algebra.Order.Field.Power
import Mathlib.Data.Rat.Cast.Order
import Mathlib.Tactic.FieldSimp
import Mathlib.Tactic.Linarith
import Mathlib.Tactic.Positivity
import Mathlib.Tactic.Ring

/-!
# Rounding

A positive ratio is rounded on the finest grid that has room for it, to the nearest point and of two
equally near ones to the even one.  So a ratio comes out as a given double precision number where it
lies within half a step of the grid around that number: the half that is below a power of two is on
a grid twice as fine, and the ends count where the significand is even.
-/

namespace AttributeRelease.Number

/-! ## Points of a grid -/

/-- A whole number lies next to a ratio: within one half, and at one half only if it is even. -/
structure Next (m : Nat) (r : ℚ) : Prop where
  low : 2 * (m : ℚ) - 1 ≤ 2 * r
  high : 2 * r ≤ 2 * m + 1
  odd : m % 2 = 1 → 2 * (m : ℚ) - 1 < 2 * r ∧ 2 * r < 2 * m + 1

theorem Next.of_lt {m : Nat} {r : ℚ} (hlow : 2 * (m : ℚ) - 1 < 2 * r)
    (hhigh : 2 * r < 2 * m + 1) : Next m r := ⟨hlow.le, hhigh.le, fun _ => ⟨hlow, hhigh⟩⟩

theorem Next.of_even {m : Nat} {r : ℚ} (heven : m % 2 = 0) (hlow : 2 * (m : ℚ) - 1 ≤ 2 * r)
    (hhigh : 2 * r ≤ 2 * m + 1) : Next m r := ⟨hlow, hhigh, fun hodd => by omega⟩

/-- Of two neighbours that a ratio lies halfway between, only one is even. -/
theorem Next.unique {m n : Nat} {r : ℚ} (hm : Next m r) (hn : Next n r) : m = n := by
  have hlt : ∀ {i j : Nat}, Next i r → Next j r → ¬ i < j := by
    intro i j hi hj hij
    have hcast : (i : ℚ) + 1 ≤ j := by exact_mod_cast hij
    have hnext : (j : ℚ) ≤ i + 1 := by linarith [hi.high, hj.low]
    have hsucc : j = i + 1 := by
      have hle : j ≤ i + 1 := by exact_mod_cast hnext
      omega
    rcases Nat.mod_two_eq_zero_or_one i with heven | hodd
    · have hodd : j % 2 = 1 := by omega
      linarith [hi.high, (hj.odd hodd).1]
    · linarith [(hi.odd hodd).2, hj.low]
  exact Nat.le_antisymm (Nat.le_of_not_lt (hlt hn hm)) (Nat.le_of_not_lt (hlt hm hn))

theorem next_roundHalfEven (num : Nat) {den : Nat} (hden : 0 < den) :
    Next (roundHalfEven num den) ((num : ℚ) / den) := by
  have hpos : (0 : ℚ) < den := by exact_mod_cast hden
  have hdiv : ((num / den : Nat) : ℚ) + ((num % den : Nat) : ℚ) / den = (num : ℚ) / den := by
    field_simp
    exact_mod_cast Nat.div_add_mod' num den
  have hrest : (0 : ℚ) ≤ ((num % den : Nat) : ℚ) / den := by positivity
  have hone : ((num % den : Nat) : ℚ) / den < 1 := by
    rw [div_lt_one hpos]
    exact_mod_cast Nat.mod_lt num hden
  rw [roundHalfEven, ← hdiv]
  rcases Nat.lt_trichotomy (2 * (num % den)) den with hbelow | hhalf | habove
  · have hrest : 2 * (((num % den : Nat) : ℚ) / den) < 1 := by
      rw [← mul_div_assoc, div_lt_one hpos]
      exact_mod_cast hbelow
    rw [if_neg (by omega)]
    exact .of_lt (by linarith) (by linarith)
  · have hrest : 2 * (((num % den : Nat) : ℚ) / den) = 1 := by
      rw [← mul_div_assoc, div_eq_one_iff_eq hpos.ne']
      exact_mod_cast hhalf
    split
    case isTrue h => exact .of_even (by omega) (by push_cast; linarith) (by push_cast; linarith)
    case isFalse h => exact .of_even (by omega) (by linarith) (by linarith)
  · have hrest : 1 < 2 * (((num % den : Nat) : ℚ) / den) := by
      rw [← mul_div_assoc, one_lt_div hpos]
      exact_mod_cast habove
    rw [if_pos (.inl habove)]
    exact .of_lt (by push_cast; linarith) (by push_cast; linarith)

/-! ## The finest grid with room -/

/-- A power with a natural exponent, written with a whole one. -/
theorem cast_pow_toNat (b : Nat) {e : Int} (he : 0 ≤ e) :
    ((Nat.pow b e.toNat : Nat) : ℚ) = (b : ℚ) ^ e := by
  obtain ⟨k, rfl⟩ := Int.eq_ofNat_of_zero_le he
  simp

theorem scaleRatio_eq (num : Nat) {den : Nat} (hden : 0 < den) (q : Int) :
    0 < (scaleRatio num den q).2 ∧
      ((scaleRatio num den q).1 : ℚ) / (scaleRatio num den q).2 = (num : ℚ) / den / 2 ^ q := by
  by_cases hq : 0 ≤ q
  · rw [scaleRatio, if_pos hq, div_div, Nat.cast_mul, cast_pow_toNat 2 hq]
    exact ⟨Nat.mul_pos hden (Nat.pow_pos (by decide)), rfl⟩
  · rw [scaleRatio, if_neg hq, Nat.cast_mul, cast_pow_toNat 2 (by omega), zpow_neg]
    exact ⟨hden, by rw [div_eq_mul_inv _ ((2 : ℚ) ^ q), mul_div_right_comm]; rfl⟩

/-- The number of bits of a ratio, up to one. -/
theorem log2_ratio {num den : Nat} (hnum : num ≠ 0) (hden : den ≠ 0) :
    (2 : ℚ) ^ ((Nat.log2 num : Int) - Nat.log2 den - 1) ≤ (num : ℚ) / den ∧
      (num : ℚ) / den < 2 ^ ((Nat.log2 num : Int) - Nat.log2 den + 1) := by
  have hlog : ∀ {n : Nat}, n ≠ 0 →
      (2 : ℚ) ^ (Nat.log2 n : Int) ≤ n ∧ (n : ℚ) < 2 ^ (Nat.log2 n + 1 : Int) := by
    intro n hn
    exact ⟨by exact_mod_cast Nat.log2_self_le hn, by exact_mod_cast Nat.lt_log2_self⟩
  obtain ⟨hnumLow, hnumHigh⟩ := hlog hnum
  obtain ⟨hdenLow, hdenHigh⟩ := hlog hden
  have hpos : (0 : ℚ) < den := by exact_mod_cast Nat.pos_of_ne_zero hden
  rw [le_div_iff₀ hpos, div_lt_iff₀ hpos]
  constructor
  · calc (2 : ℚ) ^ ((Nat.log2 num : Int) - Nat.log2 den - 1) * den
        ≤ 2 ^ ((Nat.log2 num : Int) - Nat.log2 den - 1) * 2 ^ (Nat.log2 den + 1 : Int) := by
          gcongr
      _ = 2 ^ (Nat.log2 num : Int) := by
          rw [← zpow_add₀ two_ne_zero]
          congr 1
          ring
      _ ≤ num := hnumLow
  · calc (num : ℚ) < 2 ^ (Nat.log2 num + 1 : Int) := hnumHigh
      _ = 2 ^ ((Nat.log2 num : Int) - Nat.log2 den + 1) * 2 ^ (Nat.log2 den : Int) := by
          rw [← zpow_add₀ two_ne_zero]
          congr 1
          ring
      _ ≤ 2 ^ ((Nat.log2 num : Int) - Nat.log2 den + 1) * den := by gcongr

/-- What a ratio is rounded to: the scale is the least one that leaves no more than the bits of the
precision, if it is not the least one of all, and the significand is next to the ratio on it. -/
structure Rounded (precision : Nat) (least : Int) (r : ℚ) (m : Nat) (q : Int) : Prop where
  least_le : least ≤ q
  room : r < 2 ^ (q + precision)
  full : least < q → 2 ^ (q + precision - 1) ≤ r
  next : Next m (r / 2 ^ q)

theorem scaleRatio_lt_iff (num : Nat) {den : Nat} (hden : 0 < den) (precision : Nat) (q : Int) :
    (scaleRatio num den q).1 / (scaleRatio num den q).2 < Nat.pow 2 precision ↔
      (num : ℚ) / den < 2 ^ (q + precision) := by
  obtain ⟨hpos, heq⟩ := scaleRatio_eq num hden q
  have hcast : (0 : ℚ) < (scaleRatio num den q).2 := by exact_mod_cast hpos
  rw [Nat.div_lt_iff_lt_mul hpos, zpow_add₀ two_ne_zero, ← div_lt_iff₀' (by positivity), ← heq,
    div_lt_iff₀ hcast, zpow_natCast]
  exact_mod_cast Iff.rfl

theorem rounded_roundRatio {precision : Nat} (hprecision : 0 < precision) (least : Int)
    {num den : Nat} (hnum : num ≠ 0) (hden : 0 < den) :
    Rounded precision least ((num : ℚ) / den) (roundRatio precision least num den).1
      (roundRatio precision least num den).2 := by
  obtain ⟨hlow, hhigh⟩ := log2_ratio hnum hden.ne'
  have hnext : ∀ q, Next (roundHalfEven (scaleRatio num den q).1 (scaleRatio num den q).2)
      ((num : ℚ) / den / 2 ^ q) := fun q =>
    (scaleRatio_eq num hden q).2 ▸ next_roundHalfEven _ (scaleRatio_eq num hden q).1
  have hpow : ∀ {p q : Int}, p ≤ q → (2 : ℚ) ^ p ≤ 2 ^ q := fun h =>
    zpow_le_zpow_right₀ one_le_two h
  unfold roundRatio
  generalize hguess : max least ((Nat.log2 num : Int) - Nat.log2 den - (precision - 1)) = guess
  have hlt := scaleRatio_lt_iff num hden (precision - 1) guess
  rw [Nat.cast_pred hprecision] at hlt
  simp only [hlt]
  split
  case isTrue h =>
    have hroom := h.1.trans_le (hpow (q := guess - 1 + precision) (by omega))
    exact ⟨by omega, hroom, fun _ => (hpow (by omega)).trans hlow, hnext (guess - 1)⟩
  case isFalse h =>
    refine ⟨by omega, hhigh.trans_le (hpow (by omega)), fun hleast => ?_, hnext guess⟩
    exact (hpow (by omega)).trans (not_lt.mp fun hsmall => h ⟨hsmall, hleast⟩)

/-! ## Double precision numbers -/

namespace Binary64

variable {x : Binary64}

theorem fractionBits_lt (x : Binary64) : x.fractionBits < 2 ^ 52 :=
  Nat.mod_lt _ (by decide)

theorem exponentBits_lt (h : x.isFinite) : x.exponentBits < 2047 := by
  have hne : x.exponentBits ≠ 2047 := by simpa [isFinite] using h
  have hlt : x.exponentBits < 2048 := Nat.mod_lt _ (by decide)
  omega

/-- The significand and the scale of a number are next to each other in its bits: the leading bit of
the significand, which is left out, is carried over to the exponent. -/
theorem ofSignBits_significand (x : Binary64) :
    ofSignBits x.negative ((x.scale + 1074).toNat * 2 ^ 52 + x.significand) = x := by
  have hbits : x.bits.toNat < 2 ^ 64 := x.bits.toNat_lt
  have hlow : (x.scale + 1074).toNat * 2 ^ 52 + x.significand = x.bits.toNat % 2 ^ 63 := by
    have hfraction := x.fractionBits_lt
    have hsplit : x.bits.toNat % 2 ^ 63 = x.exponentBits * 2 ^ 52 + x.fractionBits := by
      simp only [exponentBits, fractionBits, Nat.pow_eq]
      omega
    rw [hsplit, scale, significand, Nat.pow_eq]
    split <;> omega
  have hsign : (if x.negative then 2 ^ 63 else 0) = x.bits.toNat / 2 ^ 63 * 2 ^ 63 := by
    simp only [negative, beq_iff_eq, Nat.pow_eq]
    split <;> omega
  rw [ofSignBits, hlow, Nat.pow_eq, hsign, Nat.div_add_mod', UInt64.ofNat_toNat]

/-- How far below a number the ratios begin that are rounded to it, in quarters of the last place.
A power of two has its neighbour below half as far away as the one above. -/
def below (x : Binary64) : Nat := if x.fractionBits = 0 ∧ 1 < x.exponentBits then 1 else 2

/-- A ratio is rounded to a finite number other than zero, apart from the sign. -/
structure Nearest (x : Binary64) (r : ℚ) : Prop where
  low : 4 * (x.significand : ℚ) - x.below ≤ 4 * (r / 2 ^ x.scale)
  high : 4 * (r / 2 ^ x.scale) ≤ 4 * x.significand + 2
  odd : x.significand % 2 = 1 → 4 * (x.significand : ℚ) - x.below < 4 * (r / 2 ^ x.scale) ∧
    4 * (r / 2 ^ x.scale) < 4 * x.significand + 2

theorem significand_lt (x : Binary64) : x.significand < 2 ^ 53 := by
  have hfraction := x.fractionBits_lt
  rw [significand, Nat.pow_eq]
  split <;> omega

theorem Nearest.next {r : ℚ} (h : Nearest x r) : Next x.significand (r / 2 ^ x.scale) := by
  have hbelow : (x.below : ℚ) ≤ 2 := by
    rw [below]
    split <;> norm_num
  refine ⟨by linarith [h.low], by linarith [h.high], fun hodd => ?_⟩
  obtain ⟨hlow, hhigh⟩ := h.odd hodd
  exact ⟨by linarith, by linarith⟩

theorem Nearest.lt {r : ℚ} (h : Nearest x r) : r < 2 ^ (x.scale + 53) := by
  have hsignificand : (x.significand : ℚ) + 1 ≤ 2 ^ 53 := by exact_mod_cast x.significand_lt
  rw [zpow_add₀ two_ne_zero, ← div_lt_iff₀' (by positivity)]
  norm_num at hsignificand ⊢
  linarith [h.high]

theorem significand_of_lt_scale (h : -1074 < x.scale) :
    x.significand = 2 ^ 52 + x.fractionBits ∧ 1 < x.exponentBits := by
  rw [scale] at h
  rw [significand, Nat.pow_eq, if_neg (by omega)]
  exact ⟨rfl, by omega⟩

theorem Nearest.lt_of_lt_scale {r : ℚ} (h : Nearest x r) (hscale : -1074 < x.scale) :
    2 ^ (x.scale + 51) < r := by
  have hsignificand := (significand_of_lt_scale hscale).1
  have hnext := h.next.low
  rw [zpow_add₀ two_ne_zero, ← lt_div_iff₀' (by positivity)]
  rw [hsignificand] at hnext
  push_cast at hnext
  norm_num at hnext ⊢
  linarith [Nat.cast_nonneg (α := ℚ) x.fractionBits]

/-- Below a power of two there is a grid that is twice as fine, and on it the power of two is the
nearest point still. -/
theorem Nearest.next_half {r : ℚ} (h : Nearest x r) (hscale : -1074 < x.scale)
    (hlt : r < 2 ^ (x.scale + 52)) :
    x.significand = 2 ^ 52 ∧ Next (2 ^ 53) (r / 2 ^ (x.scale - 1)) := by
  obtain ⟨hsignificand, hexponent⟩ := significand_of_lt_scale hscale
  rw [zpow_add₀ two_ne_zero, ← div_lt_iff₀' (by positivity)] at hlt
  norm_num at hlt
  have hfraction : x.fractionBits = 0 := by
    have hnext := h.next.low
    rw [hsignificand] at hnext
    push_cast at hnext
    norm_num at hnext
    have hone : (x.fractionBits : ℚ) < 1 := by linarith
    exact Nat.lt_one_iff.mp (by exact_mod_cast hone)
  have hpower : x.significand = 2 ^ 52 := by rw [hsignificand, hfraction, Nat.add_zero]
  have hbelow : x.below = 1 := if_pos ⟨hfraction, hexponent⟩
  have hlow := h.low
  have htwice : r / 2 ^ (x.scale - 1) = 2 * (r / 2 ^ x.scale) := by
    rw [zpow_sub_one₀ two_ne_zero]
    field_simp
  rw [hpower, hbelow] at hlow
  push_cast at hlow
  norm_num at hlow
  rw [htwice]
  exact ⟨hpower, .of_even (by omega) (by push_cast; linarith) (by push_cast; linarith)⟩

/-- A number is on the grid that the ratio is rounded on, unless it is the power of two at the end
of that grid, and then it is written in the same bits. -/
theorem Nearest.rounded {r : ℚ} (h : Nearest x r) {m : Nat} {q : Int}
    (hrounded : Rounded 53 (-1074) r m q) :
    (q + 1074).toNat * 2 ^ 52 + m = (x.scale + 1074).toNat * 2 ^ 52 + x.significand := by
  have hpow : ∀ {p q : Int}, p ≤ q → (2 : ℚ) ^ p ≤ 2 ^ q := fun h =>
    zpow_le_zpow_right₀ one_le_two h
  have hscale : -1074 ≤ x.scale := by
    rw [scale]
    omega
  have hleast := hrounded.least_le
  have hroom : r < 2 ^ (q + 53) := hrounded.room
  -- A coarser grid would have room for twice the ratio, and a finer one has none for it, unless
  -- the ratio is below a power of two and nearer to it than to the neighbour below.
  have hle : q ≤ x.scale := by
    by_contra! hlt
    have hfull := hrounded.full (by omega)
    exact absurd ((hpow (by omega)).trans hfull) (not_le.mpr h.lt)
  have hpred : x.scale - 1 ≤ q := by
    by_contra! hlt
    have hlow := h.lt_of_lt_scale (by omega)
    exact absurd (hlow.trans hroom) (not_lt.mpr (hpow (by omega)))
  rcases eq_or_lt_of_le hle with rfl | hlt
  · rw [hrounded.next.unique h.next]
  · obtain rfl : q = x.scale - 1 := by omega
    obtain ⟨hsignificand, hnext⟩ :=
      h.next_half (by omega) (hroom.trans_le (hpow (by omega)))
    rw [hrounded.next.unique hnext, hsignificand]
    omega

/-- What lies nearest to a number is rounded to it. -/
theorem ofRatio_of_nearest (hfinite : x.isFinite) {num den : Nat} (hnum : num ≠ 0) (hden : 0 < den)
    (h : Nearest x ((num : ℚ) / den)) : ofRatio x.negative num den = x := by
  have hlow := h.rounded (rounded_roundRatio (by decide) (-1074) hnum hden)
  have hlt : (x.scale + 1074).toNat * 2 ^ 52 + x.significand < 2047 * 2 ^ 52 := by
    have hfraction := x.fractionBits_lt
    have hexponent := exponentBits_lt hfinite
    rw [scale, significand, Nat.pow_eq]
    split <;> omega
  simp only [ofRatio, if_neg hnum, Nat.pow_eq, hlow, if_neg (not_le.mpr hlt)]
  exact x.ofSignBits_significand

end Binary64

end AttributeRelease.Number
