import AttributeRelease.Number.Notation
import AttributeRelease.Proofs.Number.Numeral
import AttributeRelease.Proofs.Number.Shortest

/-!
# Written numbers are read back

Whichever way a finite number is written, with a point or with an exponent, the text is a numeral,
and the number that is read from it is the one that was written.
-/

namespace AttributeRelease.Number

/-! ## Digits as numerals -/

theorem digitsValue_append_zeros {ds : List Char} (hds : Digital ds) (k : Nat) :
    digitsValue (ds ++ List.replicate k '0') = digitsValue ds * 10 ^ k := by
  rw [digitsValue_append hds (digital_replicate k), digitsValue_replicate, List.length_replicate,
    Nat.add_zero]

theorem digitsValue_zeros_append {ds : List Char} (hds : Digital ds) (k : Nat) :
    digitsValue (List.replicate k '0' ++ ds) = digitsValue ds := by
  rw [digitsValue_append (digital_replicate k) hds, digitsValue_replicate, Nat.zero_mul,
    Nat.zero_add]

theorem Magnitude.negative_eq {negative : Bool} {cs : List Char} {n : Numeral}
    (h : Magnitude negative cs n) : n.negative = negative := by
  cases h
  rfl

namespace Digits

/-- Digits with zeros behind them, and with a point and a zero or without. -/
theorem zeros_magnitude (n k : Nat) (pointZero negative : Bool) :
    ∃ m, Magnitude negative (Nat.toDigits 10 n ++ List.replicate k '0' ++
      (if pointZero then ['.', '0'] else [])) m ∧ m.magnitude = n * 10 ^ k := by
  have hdigits := digital_toDigits n
  have hwhole : Digital (Nat.toDigits 10 n ++ List.replicate k '0') :=
    digital_append.mpr ⟨hdigits, digital_replicate k⟩
  have hne : Nat.toDigits 10 n ++ List.replicate k '0' ≠ [] := by simp [Nat.toDigits_ne_nil]
  have hvalue : digitsValue (Nat.toDigits 10 n ++ List.replicate k '0') = n * 10 ^ k := by
    rw [digitsValue_append_zeros hdigits, digitsValue_toDigits]
  cases pointZero with
  | false =>
    refine ⟨_, by simpa using Magnitude.whole hwhole hne negative, ?_⟩
    simp [Numeral.magnitude, hvalue]
  | true =>
    refine ⟨_, Magnitude.point hwhole (digital_replicate 1) hne negative, ?_⟩
    rw [Numeral.magnitude, digitsValue_append_zeros hwhole, hvalue]
    simp

/-- Digits with a point among them. -/
theorem point_magnitude {n k : Nat} (hk : k < (Nat.toDigits 10 n).length) (negative : Bool) :
    ∃ m, Magnitude negative ((Nat.toDigits 10 n).take ((Nat.toDigits 10 n).length - k) ++
      '.' :: (Nat.toDigits 10 n).drop ((Nat.toDigits 10 n).length - k)) m ∧
      m.magnitude = n * 10 ^ (-k : Int) := by
  have hparts := List.take_append_drop ((Nat.toDigits 10 n).length - k) (Nat.toDigits 10 n)
  obtain ⟨hwhole, hfraction⟩ := digital_append.mp (hparts.symm ▸ digital_toDigits n)
  have hne : (Nat.toDigits 10 n).take ((Nat.toDigits 10 n).length - k) ≠ [] := by
    rw [← List.length_pos_iff, List.length_take]
    omega
  refine ⟨_, Magnitude.point hwhole hfraction hne negative, ?_⟩
  rw [Numeral.magnitude, hparts, digitsValue_toDigits, List.length_drop, Nat.sub_sub_self hk.le,
    zero_sub]

/-- Digits that stand behind the point with zeros before them. -/
theorem fraction_magnitude {n k : Nat} (hk : (Nat.toDigits 10 n).length ≤ k) (negative : Bool) :
    ∃ m, Magnitude negative ('0' :: '.' ::
      (List.replicate (k - (Nat.toDigits 10 n).length) '0' ++ Nat.toDigits 10 n)) m ∧
      m.magnitude = n * 10 ^ (-k : Int) := by
  have hdigits := digital_toDigits n
  have hfraction := digital_append.mpr ⟨digital_replicate (k - (Nat.toDigits 10 n).length), hdigits⟩
  refine ⟨_, Magnitude.point (digital_replicate 1) hfraction (by simp) negative, ?_⟩
  rw [Numeral.magnitude, digitsValue_zeros_append hfraction, digitsValue_zeros_append hdigits,
    digitsValue_toDigits, List.length_append, List.length_replicate, Nat.sub_add_cancel hk,
    zero_sub]

theorem positional_magnitude (d : Digits) (pointZero negative : Bool) :
    ∃ n, Magnitude negative (d.positional pointZero) n ∧ n.magnitude = d.value := by
  unfold positional decimalDigits value
  dsimp only
  split
  case isTrue hexponent =>
    obtain ⟨k, hk⟩ := Int.eq_ofNat_of_zero_le hexponent
    rw [hk, Int.toNat_natCast, zpow_natCast]
    exact zeros_magnitude d.digits k pointZero negative
  case isFalse hexponent =>
    obtain ⟨k, hk⟩ := Int.eq_ofNat_of_zero_le (a := -d.exponent) (by omega)
    rw [hk, Int.toNat_natCast, ← neg_neg d.exponent, hk]
    split
    case isTrue hfew => exact point_magnitude hfew negative
    case isFalse hmany => exact fraction_magnitude (Nat.not_lt.mp hmany) negative

theorem wholeNumeral_exponent (e : Int) (plusSign : Bool) :
    WholeNumeral (if e < 0 then '-' :: decimalDigits e.natAbs
      else (if plusSign then ['+'] else []) ++ decimalDigits e.natAbs) e := by
  have hnumeral : ∀ {sign : List Char} {negative : Bool}, Sign sign negative →
      WholeNumeral (sign ++ decimalDigits e.natAbs)
        (if negative then -(e.natAbs : Int) else e.natAbs) := by
    intro sign negative hsign
    have h := WholeNumeral.intro hsign (digital_toDigits e.natAbs) Nat.toDigits_ne_nil
    rwa [digitsValue_toDigits] at h
  split
  case isTrue hnegative =>
    have h := hnumeral .minus
    rwa [if_pos rfl, Int.ofNat_natAbs_of_nonpos hnegative.le, neg_neg] at h
  case isFalse hpositive =>
    have hnatAbs : (e.natAbs : Int) = e := Int.natAbs_of_nonneg (not_lt.mp hpositive)
    cases plusSign with
    | false => simpa [hnatAbs] using hnumeral .absent
    | true => simpa [hnatAbs] using hnumeral .plus

theorem scientific_magnitude (d : Digits) (plusSign negative : Bool) :
    ∃ n, Magnitude negative (d.scientific plusSign) n ∧ n.magnitude = d.value := by
  have hdigits := digital_toDigits d.digits
  have hvalue := digitsValue_toDigits d.digits
  have hexponent := Exponent.written (.inl rfl) (wholeNumeral_exponent
    (d.exponent + ((decimalDigits d.digits).length : Int) - 1) plusSign)
  obtain ⟨c, more, hcons, -⟩ := toDigits_eq_cons d.digits
  unfold scientific
  dsimp only
  rw [decimalDigits, hcons] at hexponent ⊢
  rw [hcons] at hdigits hvalue
  obtain ⟨hfirst, hmore⟩ := digital_append.mp (show Digital ([c] ++ more) from hdigits)
  have hmagnitude : d.value = (digitsValue (c :: more) : ℚ) *
      10 ^ (d.exponent + ((c :: more).length : Int) - 1 - more.length) := by
    rw [hvalue, Digits.value, List.length_cons]
    congr
    push_cast
    ring
  rw [hmagnitude]
  cases more with
  | nil => exact ⟨_, .intro hfirst .absent hmore (.inl (by simp)) hexponent, rfl⟩
  | cons d more =>
    have h : Magnitude negative _ _ :=
      .intro hfirst (.point (d :: more)) hmore (.inl (by simp)) hexponent
    exact ⟨_, by simpa using h, rfl⟩

end Digits

/-! ## Numbers -/

/-- What a numeral denotes is of the size that the number of its digits tells. -/
theorem Numeral.magnitude_bounds {n : Numeral} (hdigits : n.digits ≠ 0) :
    (10 : ℚ) ^ ((digitCount n.digits : Int) - 1 + (n.exponent - n.places)) ≤ n.magnitude ∧
      n.magnitude < 10 ^ ((digitCount n.digits : Int) + (n.exponent - n.places)) := by
  have hlow : (10 : ℚ) ^ ((digitCount n.digits : Int) - 1) ≤ n.digits := by
    rw [← Nat.cast_pred (n := digitCount _) Nat.length_toDigits_pos, zpow_natCast]
    exact_mod_cast pow_digitCount_le hdigits
  have hhigh : (n.digits : ℚ) < 10 ^ (digitCount n.digits : Int) := by
    rw [zpow_natCast]
    exact_mod_cast lt_pow_digitCount n.digits
  have hpos : (0 : ℚ) < 10 ^ (n.exponent - n.places) := by positivity
  rw [magnitude, zpow_add₀ (by norm_num), zpow_add₀ (by norm_num)]
  exact ⟨mul_le_mul_of_nonneg_right hlow hpos.le, mul_lt_mul_of_pos_right hhigh hpos⟩

/-- What lies nearest to a finite number other than zero is neither too large nor too small to be
read. -/
theorem Binary64.Nearest.bounds {x : Binary64} (hfinite : x.isFinite) (hne : x.significand ≠ 0)
    {r : ℚ} (h : x.Nearest r) : 10 ^ (-324 : Int) < r ∧ r < 10 ^ (309 : Int) := by
  have hexponent := exponentBits_lt hfinite
  have hscale : -1074 ≤ x.scale ∧ x.scale ≤ 971 := by
    rw [scale]
    omega
  constructor
  · have hone : (1 : ℚ) ≤ x.significand := by exact_mod_cast Nat.one_le_iff_ne_zero.mpr hne
    have hpow : 2 ^ 1075 < 10 ^ 324 := by decide +kernel
    have hlow := h.next.low
    calc (10 : ℚ) ^ (-324 : Int) < 2 ^ (-1075 : Int) := by
          rw [zpow_neg, zpow_neg, inv_lt_inv₀ (by positivity) (by positivity)]
          exact_mod_cast hpow
      _ ≤ 2 ^ (x.scale - 1) := zpow_le_zpow_right₀ one_le_two (by omega)
      _ = 1 / 2 * 2 ^ x.scale := by
          rw [zpow_sub_one₀ two_ne_zero]
          ring
      _ ≤ r := by
          rw [← le_div_iff₀ (by positivity)]
          linarith
  · have hpow : 2 ^ 1024 < 10 ^ 309 := by decide +kernel
    calc r < 2 ^ (x.scale + 53) := h.lt
      _ ≤ 2 ^ (1024 : Int) := zpow_le_zpow_right₀ one_le_two (by omega)
      _ < 10 ^ (309 : Int) := by exact_mod_cast hpow

/-- A numeral is read as the number that it lies nearest to. -/
theorem Numeral.toBinary64_of_nearest {x : Binary64} (hfinite : x.isFinite)
    (hne : x.significand ≠ 0) {n : Numeral} (hsign : n.negative = x.negative)
    (hdigits : n.digits ≠ 0) (h : x.Nearest n.magnitude) : n.toBinary64 = x := by
  obtain ⟨hlow, hhigh⟩ := h.bounds hfinite hne
  obtain ⟨hleast, hgreatest⟩ := magnitude_bounds hdigits
  have hsize : -330 ≤ (digitCount n.digits : Int) + (n.exponent - n.places) ∧
      (digitCount n.digits : Int) + (n.exponent - n.places) ≤ 310 := by
    have hmin := (zpow_lt_zpow_iff_right₀ (by norm_num)).mp (hlow.trans hgreatest)
    have hmax := (zpow_lt_zpow_iff_right₀ (by norm_num)).mp (hleast.trans_lt hhigh)
    omega
  rw [digitCount] at hsize
  rw [toBinary64, hsign, if_neg hdigits, if_neg (not_lt.mpr hsize.2), if_neg (not_lt.mpr hsize.1)]
  split
  case isTrue hexponent =>
    refine Binary64.ofRatio_of_nearest hfinite ?_ Nat.one_pos ?_
    · exact Nat.mul_ne_zero hdigits (Nat.pow_pos (by decide)).ne'
    · rw [Nat.cast_mul, cast_pow_toNat 10 hexponent, Nat.cast_one, div_one]
      exact h
  case isFalse hexponent =>
    refine Binary64.ofRatio_of_nearest hfinite hdigits (Nat.pow_pos (by decide)) ?_
    rw [cast_pow_toNat 10 (by omega), zpow_neg, div_inv_eq_mul]
    exact h

/-! ## Written numbers -/

namespace Binary64

variable {x : Binary64}

/-- The number that a finite double precision number is. -/
def value (x : Binary64) : ℚ := (if x.negative then -1 else 1) * x.magnitude

theorem isZero_iff : x.isZero = true ↔ x.significand = 0 := by
  simp only [isZero, significand, Bool.and_eq_true, beq_iff_eq]
  split
  case isTrue h => simp [h]
  case isFalse h => simp [h]

theorem zero_of_isZero (h : x.isZero = true) : zero x.negative = x := by
  have hbits := x.ofSignBits_significand
  have hscale : x.scale = -1074 := by
    simp only [isZero, Bool.and_eq_true, beq_iff_eq] at h
    rw [scale, h.1]
    rfl
  rwa [isZero_iff.mp h, hscale] at hbits

theorem Nearest.abs_sub_le {r : ℚ} (h : x.Nearest r) : |r - x.magnitude| ≤ 2 ^ x.scale / 2 := by
  have hunit : (0 : ℚ) < 2 ^ x.scale := by positivity
  have hlow : ((x.significand : ℚ) - 1 / 2) * 2 ^ x.scale ≤ r := by
    rw [← le_div_iff₀ hunit]
    linarith [h.next.low]
  have hhigh : r ≤ ((x.significand : ℚ) + 1 / 2) * 2 ^ x.scale := by
    rw [← div_le_iff₀ hunit]
    linarith [h.next.high]
  rw [abs_le, magnitude]
  constructor <;> linarith

end Binary64

/-- A numeral of a finite number: that number is read from it, and what it denotes is no further
away than half a unit in the last place. -/
structure Numeral.Denotes (n : Numeral) (x : Binary64) : Prop where
  toBinary64_eq : n.toBinary64 = x
  near : |n.value - x.value| ≤ 2 ^ x.scale / 2

namespace Numeral

variable {n : Numeral} {x : Binary64}

theorem abs_value_sub (hsign : n.negative = x.negative) :
    |n.value - x.value| = |n.magnitude - x.magnitude| := by
  rw [value, Binary64.value, hsign, ← mul_sub, abs_mul]
  split <;> simp

theorem Denotes.of_nearest (hfinite : x.isFinite) (hne : x.significand ≠ 0)
    (hsign : n.negative = x.negative) (h : x.Nearest n.magnitude) : n.Denotes x := by
  have hdigits : n.digits ≠ 0 := by
    intro hzero
    have hpos := (h.bounds hfinite hne).1
    rw [magnitude, hzero, Nat.cast_zero, zero_mul] at hpos
    exact absurd hpos (not_lt.mpr (by positivity))
  exact ⟨toBinary64_of_nearest hfinite hne hsign hdigits h, abs_value_sub hsign ▸ h.abs_sub_le⟩

theorem Denotes.of_zero (hzero : x.isZero) (hsign : n.negative = x.negative)
    (h : n.magnitude = 0) : n.Denotes x := by
  have hdigits : n.digits = 0 := by
    have hpow : (10 : ℚ) ^ (n.exponent - n.places) ≠ 0 := by positivity
    simpa [magnitude, hpow] using h
  refine ⟨?_, ?_⟩
  · rw [toBinary64, if_pos hdigits, hsign, Binary64.zero_of_isZero hzero]
  · rw [abs_value_sub hsign, h, Binary64.magnitude, Binary64.isZero_iff.mp hzero]
    simp only [Nat.cast_zero, zero_mul, sub_zero, abs_zero]
    positivity

end Numeral

theorem sign_negative (negative : Bool) : Sign (if negative then ['-'] else []) negative := by
  cases negative with
  | false => exact .absent
  | true => exact .minus

/-- The text of a finite number is a numeral of it, whatever the style. -/
theorem Style.write_spells (s : Style) {x : Binary64} (hfinite : x.isFinite) :
    ∃ n, Spells (s.write x) n ∧ n.Denotes x := by
  have hexponent : x.exponentBits ≠ 2047 := by simpa [Binary64.isFinite] using hfinite
  have hsign := sign_negative x.negative
  have hnan : x.isNaN = false := by simp [Binary64.isNaN, hexponent]
  have hinfinite : x.isInfinite = false := by simp [Binary64.isInfinite, hexponent]
  unfold write
  simp only [hnan, hinfinite, Bool.false_eq_true, if_false]
  split
  case isTrue hzero =>
    obtain ⟨n, hn, hvalue⟩ := Digits.zeros_magnitude 0 0 s.pointZero x.negative
    have hbody : Nat.toDigits 10 0 ++ List.replicate 0 '0' ++
        (if s.pointZero then ['.', '0'] else []) =
        if s.pointZero then "0.0".toList else ['0'] := by
      cases s.pointZero <;> rfl
    rw [hbody] at hn
    exact ⟨n, .intro hsign hn, .of_zero hzero hn.negative_eq (by simpa using hvalue)⟩
  case isFalse hzero =>
    have hne := mt Binary64.isZero_iff.mpr hzero
    have hnearest := Binary64.nearest_shortest hne
    have hspells : ∀ {cs : List Char},
        (∃ n, Magnitude x.negative cs n ∧ n.magnitude = x.shortest.value) →
          ∃ n, Spells ((if x.negative then ['-'] else []) ++ cs) n ∧ n.Denotes x := by
      rintro cs ⟨n, hn, hvalue⟩
      exact ⟨n, .intro hsign hn, .of_nearest hfinite hne hn.negative_eq (hvalue ▸ hnearest)⟩
    apply hspells
    split
    case isTrue => exact x.shortest.positional_magnitude s.pointZero x.negative
    case isFalse => exact x.shortest.scientific_magnitude s.plusSign x.negative

/-- The text of anything else is a name, and no numeral. -/
theorem Style.write_unbounded (s : Style) {x : Binary64} (hfinite : ¬ x.isFinite) :
    Unbounded (s.write x) := by
  have hexponent : x.exponentBits = 2047 := by simpa [Binary64.isFinite] using hfinite
  rw [write]
  by_cases hfraction : x.fractionBits = 0
  · have hnan : x.isNaN = false := by simp [Binary64.isNaN, hfraction]
    have hinfinite : x.isInfinite = true := by simp [Binary64.isInfinite, hexponent, hfraction]
    simp only [hnan, hinfinite, Bool.false_eq_true, if_false, if_true]
    exact .intro (sign_negative x.negative) (by decide)
  · have hnan : x.isNaN = true := by simp [Binary64.isNaN, hexponent, hfraction]
    rw [if_pos hnan]
    exact .intro .absent (by decide)

end AttributeRelease.Number
