import AttributeRelease.Calendar.Reading
import AttributeRelease.Proofs.Number.Numeral
import AttributeRelease.Proofs.Text.Blank
import Mathlib.Data.List.TakeWhile

/-!
# Dates and times read back

The texts of days, times of day and timestamps are read as what they are the texts of, whatever the
year, and with a leap second that ends a minute; a leap second within a minute is shown as the
second after it, and read as that one.  A stored value is read with its fraction of a second, in
however many digits that is shown.  A column, though, is read without one: a text that has a
fraction is not read at all.
-/

namespace AttributeRelease.Calendar

open AttributeRelease.Number
open AttributeRelease.Text (dropBlanks isBlank dropBlanks_of_head? trim trimChars_of_ends
  trimChars_of_not_blank)

/-! ## Numbers of some width -/

theorem digital_padded (width n : Nat) : Digital (padded width n) :=
  digital_append.mpr ⟨digital_replicate _, digital_toDigits n⟩

theorem isDigit_of_mem_padded {width n : Nat} {c : Char} (h : c ∈ padded width n) :
    isDigit c = true := digital_iff.mp (digital_padded width n) c h

theorem digitsValue_padded (width n : Nat) : digitsValue (padded width n) = n := by
  rw [padded, digitsValue_append (digital_replicate _) (digital_toDigits n), digitsValue_replicate,
    digitsValue_toDigits, Nat.zero_mul, Nat.zero_add]

theorem natOfDigits_padded (width n : Nat) : natOfDigits 0 (padded width n) = n := by
  rw [natOfDigits_zero (digital_padded width n), digitsValue_padded]

theorem padded_ne_nil (width n : Nat) : padded width n ≠ [] := by
  simp [padded, Nat.toDigits_ne_nil]

theorem length_padded {width n : Nat} (hwidth : 0 < width) (hn : n < 10 ^ width) :
    (padded width n).length = width := by
  have hle : (Nat.toDigits 10 n).length ≤ width :=
    (Nat.length_toDigits_le_iff (by decide) hwidth).mpr hn
  simp only [padded, List.length_append, List.length_replicate]
  omega

/-- No blank is passed over before digits. -/
theorem dropBlanks_padded (width n : Nat) (rest : List Char) :
    dropBlanks (padded width n ++ rest) = padded width n ++ rest := by
  refine dropBlanks_of_head? fun c hc => ?_
  rw [List.head?_append_of_ne_nil _ (padded_ne_nil width n)] at hc
  exact isBlank_of_isDigit (isDigit_of_mem_padded (List.mem_of_head? hc))

/-- A number that fills its width is read, whatever stands behind it. -/
theorem number?_padded {width n : Nat} (hwidth : 0 < width) (hn : n < 10 ^ width)
    (rest : List Char) : number? width (padded width n ++ rest) = some (n, rest) := by
  have hlength := length_padded hwidth hn
  have htake : ((padded width n ++ rest).take width).takeWhile isDigit = padded width n := by
    rw [List.take_left' hlength, List.takeWhile_eq_self_iff]
    exact fun c hc => isDigit_of_mem_padded hc
  simp [number?, dropBlanks_padded, htake, padded_ne_nil, natOfDigits_padded]

theorem number?_two {n : Nat} (hn : n < 10 ^ 2) (rest : List Char) :
    number? 2 (padded 2 n ++ rest) = some (n, rest) := number?_padded (by decide) hn rest

/-- A number of any width is read up to what is no digit. -/
theorem unbounded?_padded {width n : Nat} (hn : n < Nat.pow 2 63) {rest : List Char}
    (hrest : ∀ c ∈ rest.head?, isDigit c = false) :
    unbounded? (padded width n ++ rest) = some (n, rest) := by
  have hspan : spanDigits (padded width n ++ rest) = (padded width n, rest) :=
    spanDigits_append (fun c hc => isDigit_of_mem_padded hc) hrest
  simp [unbounded?, hspan, padded_ne_nil, natOfDigits_padded, Nat.not_le.mpr hn]

/-! ## Days -/

theorem Date.bounds (d : Date) :
    -262143 ≤ d.year ∧ d.year ≤ 262142 ∧ d.month ≤ 12 ∧ d.day ≤ 31 := by
  have hvalid := d.valid
  have hdays : daysIn d.year d.month ≤ 31 := by
    unfold daysIn
    split <;> [split; split] <;> decide
  simp only [isDay, Bool.and_eq_true, decide_eq_true_eq] at hvalid
  omega

theorem Date.ofParts?_self (d : Date) : Date.ofParts? d.year d.month d.day = some d :=
  dif_pos d.valid

/-- A year is read back from its text, with the sign where there is one. -/
theorem year?_yearChars {year : Int} (hlow : -262143 ≤ year) (hhigh : year ≤ 262142)
    (rest : List Char) : year? (yearChars year ++ '-' :: rest) = some (year, '-' :: rest) := by
  have hsigned : unbounded? (padded 4 year.natAbs ++ '-' :: rest) =
      some (year.natAbs, '-' :: rest) := by
    refine unbounded?_padded ?_ (by simp; decide)
    rw [show Nat.pow 2 63 = 9223372036854775808 by decide]
    omega
  by_cases hfour : 0 ≤ year ∧ year ≤ 9999
  · have hread : number? 4 (padded 4 year.natAbs ++ '-' :: rest) =
        some (year.natAbs, '-' :: rest) := number?_padded (by decide) (by omega) _
    have hfirst : ∀ c more, padded 4 year.natAbs ++ '-' :: rest = c :: more →
        isDigit c = true := by
      intro c more heq
      have hhead : (padded 4 year.natAbs ++ '-' :: rest).head? = some c := by rw [heq]; rfl
      rw [List.head?_append_of_ne_nil _ (padded_ne_nil 4 year.natAbs)] at hhead
      exact isDigit_of_mem_padded (List.mem_of_head? hhead)
    rw [yearChars, if_pos hfour, year?, dropBlanks_padded]
    split
    case h_1 heq => exact absurd (hfirst _ _ heq) (by decide)
    case h_2 heq => exact absurd (hfirst _ _ heq) (by decide)
    case h_3 =>
      simp only [hread, Option.map_some, Option.some.injEq, Prod.mk.injEq, and_true]
      omega
  · rw [yearChars, if_neg hfour, List.cons_append, year?]
    by_cases hneg : year < 0
    · rw [if_pos hneg, dropBlanks_of_head? (by simp; decide)]
      simp only [hsigned, Option.map_some, Option.some.injEq, Prod.mk.injEq, and_true]
      omega
    · rw [if_neg hneg, dropBlanks_of_head? (by simp; decide)]
      simp only [hsigned, Option.map_some, Option.some.injEq, Prod.mk.injEq, and_true]
      omega

theorem expect?_cons (c : Char) (rest : List Char) : expect? c (c :: rest) = some rest :=
  if_pos rfl

/-- A separator that is not blank stands where it is expected. -/
theorem gap_cons {c : Char} (hc : isBlank c = false) (lenient : Bool) (rest : List Char) :
    gap lenient (c :: rest) = c :: rest := by
  cases lenient with
  | false => rfl
  | true => exact dropBlanks_of_head? (by simpa using hc)

/-- A day is read back from its text, whatever stands behind it. -/
theorem day?_chars (lenient : Bool) (d : Date) (rest : List Char) :
    day? lenient (d.chars ++ rest) = some (d, rest) := by
  obtain ⟨hlow, hhigh, hmonth, hday⟩ := d.bounds
  have hdash : ∀ more, gap lenient ('-' :: more) = '-' :: more := gap_cons (by decide) lenient
  simp only [Date.chars, List.append_assoc, List.cons_append]
  simp [day?, year?_yearChars hlow hhigh, hdash, expect?_cons,
    number?_two (Nat.lt_of_le_of_lt hmonth (by decide)),
    number?_two (Nat.lt_of_le_of_lt hday (by decide)), d.ofParts?_self]

/-! ## Times of day -/

theorem Time.bounds (t : Time) :
    t.hour < 24 ∧ t.minute < 60 ∧ t.second < 60 ∧ t.nano < 2000000000 := by
  have hvalid := t.valid
  simp only [isTimeOfDay, Bool.and_eq_true, decide_eq_true_eq] at hvalid
  omega

theorem Time.shownSecond_le (t : Time) : t.shownSecond ≤ 60 := by
  obtain ⟨-, -, hsecond, hnano⟩ := t.bounds
  rw [shownSecond]
  omega

theorem Time.fraction_lt (t : Time) : t.fraction < 1000000000 := Nat.mod_lt _ (by decide)

/-- A time of day that is in a leap second is in one that ends its minute. -/
def Time.LeapEndsMinute (t : Time) : Prop := 1000000000 ≤ t.nano → t.second = 59

instance (t : Time) : Decidable t.LeapEndsMinute :=
  inferInstanceAs (Decidable (1000000000 ≤ t.nano → t.second = 59))

/-- The time of day that is shown: the second after it in place of a leap second within a minute. -/
def Time.asShown (t : Time) : Time :=
  if h : 1000000000 ≤ t.nano ∧ t.second ≠ 59 then
    ⟨t.hour, t.minute, t.second + 1, t.nano - 1000000000, by
      obtain ⟨hhour, hminute, hsecond, hnano⟩ := t.bounds
      simp only [isTimeOfDay, Bool.and_eq_true, decide_eq_true_eq]
      omega⟩
  else t

theorem Time.asShown_eq_self_iff {t : Time} : t.asShown = t ↔ t.LeapEndsMinute := by
  rw [asShown, LeapEndsMinute]
  split
  case isTrue h =>
    constructor
    · intro hsame
      have hsecond := congrArg Time.second hsame
      simp at hsecond
    · intro hends
      exact absurd (hends h.1) h.2
  case isFalse h => exact iff_of_true rfl (by simpa using h)

theorem Time.ofParts?_self (t : Time) : Time.ofParts? t.hour t.minute t.second t.nano = some t :=
  dif_pos t.valid

/-- The parts that are shown are read as the time of day that they show. -/
theorem Time.ofShown?_shown (t : Time) :
    Time.ofShown? t.hour t.minute t.shownSecond t.fraction = some t.asShown := by
  obtain ⟨-, -, hsecond, hnano⟩ := t.bounds
  by_cases hleap : 1000000000 ≤ t.nano
  · have hshown : t.shownSecond = t.second + 1 := by
      rw [shownSecond]
      omega
    have hfraction : t.fraction = t.nano - 1000000000 := by
      rw [fraction]
      omega
    rw [hshown, hfraction, ofShown?, asShown]
    by_cases hlast : t.second = 59
    · rw [if_pos (by omega), Nat.sub_add_cancel hleap, dif_neg (by simp [hlast]), ← hlast]
      exact t.ofParts?_self
    · rw [if_neg (by omega), dif_pos ⟨hleap, hlast⟩]
      exact dif_pos _
  · have hshown : t.shownSecond = t.second := by
      rw [shownSecond]
      omega
    have hfraction : t.fraction = t.nano := Nat.mod_eq_of_lt (Nat.lt_of_not_le hleap)
    rw [hshown, hfraction, ofShown?, asShown, if_neg (by omega), dif_neg (by simp [hleap])]
    exact t.ofParts?_self

/-- Hour and minute are read back, whatever stands behind them. -/
theorem hourMinute?_padded (lenient : Bool) {hour minute : Nat} (hhour : hour < 24)
    (hminute : minute < 60) (rest : List Char) :
    hourMinute? lenient (padded 2 hour ++ ':' :: (padded 2 minute ++ rest)) =
      some ((hour, minute), rest) := by
  have hcolon : ∀ more, gap lenient (':' :: more) = ':' :: more := gap_cons (by decide) lenient
  simp [hourMinute?, hcolon, expect?_cons,
    number?_two (Nat.lt_trans hhour (by decide)),
    number?_two (Nat.lt_trans hminute (by decide))]

/-- A time of day without its fraction of a second. -/
def Time.toSecond (t : Time) : Time :=
  ⟨t.hour, t.minute, t.second, t.nano - t.fraction, by
    obtain ⟨hhour, hminute, hsecond, hnano⟩ := t.bounds
    simp only [isTimeOfDay, Bool.and_eq_true, decide_eq_true_eq]
    omega⟩

theorem Time.toSecond_of_fraction {t : Time} (h : t.fraction = 0) : t.toSecond = t := by
  obtain ⟨hour, minute, second, nano, hvalid⟩ := t
  simp [toSecond, h]

/-- The second that is shown is read as the one without its fraction. -/
theorem Time.ofShown?_second (t : Time) :
    Time.ofShown? t.hour t.minute t.shownSecond 0 = some t.toSecond.asShown := by
  have hsecond : t.toSecond.shownSecond = t.shownSecond := by
    simp only [shownSecond, toSecond, fraction]
    omega
  have hfraction : t.toSecond.fraction = 0 := by
    simp only [fraction, toSecond]
    omega
  have hshown := t.toSecond.ofShown?_shown
  rwa [hsecond, hfraction] at hshown

theorem fractionChars_eq_nil_iff {nano : Nat} : fractionChars nano = [] ↔ nano = 0 := by
  unfold fractionChars
  split
  case isTrue h => simp [h]
  case isFalse h => split <;> [skip; split] <;> simp [h]

/-- A time of day is read up to its second, and its fraction is left over. -/
theorem timeOfDay?_chars (t : Time) :
    timeOfDay? false t.chars = some (t.toSecond.asShown, fractionChars t.fraction) := by
  obtain ⟨hhour, hminute, -, -⟩ := t.bounds
  simp [timeOfDay?, Time.chars, hourMinute?_padded false hhour hminute, second?, gap, expect?_cons,
    number?_two (Nat.lt_of_le_of_lt t.shownSecond_le (by decide)), t.ofShown?_second]

/-! ## Columns -/

theorem Date.ofColumn?_text (d : Date) : Date.ofColumn? d.text = some d := by
  have hread := day?_chars false d []
  rw [List.append_nil] at hread
  simp [Date.ofColumn?, Date.text, hread, whole?, gap]

/-- A time of day is read from a column exactly if it has no fraction of a second. -/
theorem Time.ofColumn?_text (t : Time) :
    Time.ofColumn? t.text = if t.fraction = 0 then some t.asShown else none := by
  by_cases h : t.fraction = 0
  · simp [Time.ofColumn?, Time.text, timeOfDay?_chars, whole?, gap, fractionChars_eq_nil_iff, h,
      Time.toSecond_of_fraction h]
  · simp [Time.ofColumn?, Time.text, timeOfDay?_chars, whole?, gap, fractionChars_eq_nil_iff, h]

/-- A blank between day and time of day is passed over. -/
theorem timeOfDay?_blank (lenient : Bool) (cs : List Char) :
    timeOfDay? lenient (' ' :: cs) = timeOfDay? lenient cs := by
  have hnumber : number? 2 (' ' :: cs) = number? 2 cs := rfl
  rw [timeOfDay?, timeOfDay?, hourMinute?, hourMinute?, hnumber]

/-- The timestamp that is shown. -/
def Timestamp.asShown (t : Timestamp) : Timestamp := { t with time := t.time.asShown }

theorem Timestamp.asShown_eq_self_iff {t : Timestamp} :
    t.asShown = t ↔ t.time.LeapEndsMinute := by
  obtain ⟨date, time⟩ := t
  rw [← Time.asShown_eq_self_iff, asShown, mk.injEq]
  exact and_iff_right rfl

/-- A timestamp is read from a column exactly if it has no fraction of a second. -/
theorem Timestamp.ofColumn?_text (t : Timestamp) :
    Timestamp.ofColumn? t.text = if t.time.fraction = 0 then some t.asShown else none := by
  by_cases h : t.time.fraction = 0
  · simp [Timestamp.ofColumn?, Timestamp.text, Timestamp.chars, day?_chars, timeOfDay?_blank,
      timeOfDay?_chars, whole?, gap, fractionChars_eq_nil_iff, h, Time.toSecond_of_fraction h,
      asShown]
  · simp [Timestamp.ofColumn?, Timestamp.text, Timestamp.chars, day?_chars, timeOfDay?_blank,
      timeOfDay?_chars, whole?, gap, fractionChars_eq_nil_iff, h]

/-! ## Stored values -/

/-- Up to nine digits of a fraction count for what their places say. -/
theorem fraction?_padded {width n : Nat} (hwidth : 0 < width) (hnine : width ≤ 9)
    (hn : n < 10 ^ width) :
    fraction? ('.' :: padded width n) = some (n * Nat.pow 10 (9 - width), []) := by
  have hlength := length_padded hwidth hn
  have hdigits : ((padded width n).take 9).takeWhile isDigit = padded width n := by
    rw [List.take_of_length_le (hlength.trans_le hnine), List.takeWhile_eq_self_iff]
    exact fun c hc => isDigit_of_mem_padded hc
  simp only [fraction?, hdigits, padded_ne_nil, ↓reduceIte, natOfDigits_padded, hlength,
    List.drop_of_length_le hlength.le, List.dropWhile_nil]

/-- A fraction of a second is read back, as the digits that are not shown are zeros. -/
theorem fraction?_fractionChars {nano : Nat} (h : nano < 1000000000) :
    fraction? (fractionChars nano) = some (nano, []) := by
  unfold fractionChars
  split
  case isTrue hzero =>
    subst hzero
    rfl
  case isFalse =>
    split
    case isTrue hmilli =>
      rw [fraction?_padded (by decide) (by decide) (Nat.div_lt_of_lt_mul h)]
      exact congrArg (fun n => some (n, [])) (Nat.div_mul_cancel (Nat.dvd_of_mod_eq_zero hmilli))
    case isFalse =>
      split
      case isTrue hmicro =>
        rw [fraction?_padded (by decide) (by decide) (Nat.div_lt_of_lt_mul h)]
        exact congrArg (fun n => some (n, [])) (Nat.div_mul_cancel (Nat.dvd_of_mod_eq_zero hmicro))
      case isFalse =>
        rw [fraction?_padded (by decide) (by decide) h]
        exact congrArg (fun n => some (n, [])) (Nat.mul_one nano)

/-- The second is read back with its fraction. -/
theorem second?_chars (t : Time) :
    second? true (':' :: (padded 2 t.shownSecond ++ fractionChars t.fraction)) =
      some ((t.shownSecond, t.fraction), []) := by
  have hcolon : ∀ more, gap true (':' :: more) = ':' :: more := gap_cons (by decide) true
  simp [second?, hcolon, expect?_cons,
    number?_two (Nat.lt_of_le_of_lt t.shownSecond_le (by decide)),
    fraction?_fractionChars t.fraction_lt]

theorem whole?_nil {α : Type} (lenient : Bool) (a : α) :
    whole? lenient (some (a, [])) = some a := by
  cases lenient with
  | false => rfl
  | true => rfl

theorem Date.ofText?_text (d : Date) : Date.ofText? d.text = some d := by
  have hread := day?_chars true d []
  rw [List.append_nil] at hread
  rw [Date.ofText?, Date.text, String.toList_ofList, hread, whole?_nil]

theorem Time.ofText?_text (t : Time) : Time.ofText? t.text = some t.asShown := by
  obtain ⟨hhour, hminute, -, -⟩ := t.bounds
  simp [Time.ofText?, Time.text, Time.chars, hourMinute?_padded true hhour hminute, second?_chars,
    t.ofShown?_shown, whole?_nil]

/-- A fraction of a second is less than a second, however many digits it has. -/
theorem fraction?_lt {cs rest : List Char} {nano : Nat} (h : fraction? cs = some (nano, rest)) :
    nano < 1000000000 := by
  unfold fraction? at h
  split at h
  case h_1 rest' =>
    extract_lets ds at h
    split at h
    case isTrue => cases h
    case isFalse =>
      cases h
      have hdigital : Digital ds := digital_iff.mpr fun c hc => (List.mem_takeWhile_imp hc)
      have hlength : ds.length ≤ 9 :=
        (List.takeWhile_prefix _).length_le.trans (List.length_take_le _ _)
      have hlt : natOfDigits 0 ds < 10 ^ ds.length := by
        rw [natOfDigits_zero hdigital]
        exact digitsValue_lt hdigital
      calc natOfDigits 0 ds * 10 ^ (9 - ds.length)
          < 10 ^ ds.length * 10 ^ (9 - ds.length) := Nat.mul_lt_mul_of_pos_right hlt (Nat.pow_pos (by decide))
        _ = 10 ^ 9 := by rw [← Nat.pow_add, Nat.add_sub_cancel' hlength]
  case h_2 =>
    cases h
    decide

theorem second?_lt {lenient : Bool} {cs rest : List Char} {second nano : Nat}
    (h : second? lenient cs = some ((second, nano), rest)) : nano < 1000000000 := by
  simp only [second?, Option.bind_eq_bind, Option.bind_eq_some_iff] at h
  obtain ⟨cs, -, ⟨n, cs'⟩, -, h⟩ := h
  cases lenient with
  | false =>
      cases h
      decide
  | true =>
      simp only [↓reduceIte, Option.bind_eq_some_iff] at h
      obtain ⟨⟨f, cs''⟩, hf, h⟩ := h
      cases h
      exact fraction?_lt hf

/-- What is shown is no leap second within a minute. -/
theorem Time.leapEndsMinute_of_ofShown? {hour minute second fraction : Nat} {t : Time}
    (hfraction : fraction < 1000000000) (h : Time.ofShown? hour minute second fraction = some t) :
    t.LeapEndsMinute := by
  rw [ofShown?, ofParts?, ofParts?] at h
  intro hleap
  split at h <;> split at h <;> cases h
  · rfl
  · exact absurd hleap (Nat.not_le.mpr hfraction)

theorem timeOfDay?_leapEndsMinute {lenient : Bool} {cs rest : List Char} {t : Time}
    (h : timeOfDay? lenient cs = some (t, rest)) : t.LeapEndsMinute := by
  simp only [timeOfDay?, Option.bind_eq_bind, Option.bind_eq_some_iff] at h
  obtain ⟨⟨⟨hour, minute⟩, cs⟩, -, ⟨⟨second, nano⟩, cs'⟩, hsecond, time, htime, h⟩ := h
  cases h
  exact Time.leapEndsMinute_of_ofShown? (second?_lt hsecond) htime

theorem whole?_eq_some_iff {α : Type} {lenient : Bool} {r : Option (α × List Char)} {a : α} :
    whole? lenient r = some a ↔ ∃ rest, r = some (a, rest) ∧ gap lenient rest = [] := by
  rw [whole?, Option.bind_eq_some_iff]
  constructor
  · rintro ⟨⟨b, rest⟩, hr, hb⟩
    obtain ⟨hrest, hb⟩ := Option.ite_none_right_eq_some.mp hb
    cases hb
    exact ⟨rest, hr, hrest⟩
  · rintro ⟨rest, hr, hrest⟩
    exact ⟨(a, rest), hr, if_pos hrest⟩

theorem Time.leapEndsMinute_of_ofText? {s : String} {t : Time} (h : Time.ofText? s = some t) :
    t.LeapEndsMinute := by
  unfold Time.ofText? at h
  split at h
  · cases h
  · split at h
    case h_1 hsecond =>
      obtain ⟨rest, hmap, -⟩ := whole?_eq_some_iff.mp h
      obtain ⟨u, hu, hpair⟩ := Option.map_eq_some_iff.mp hmap
      cases hpair
      exact leapEndsMinute_of_ofShown? (second?_lt hsecond) hu
    case h_2 =>
      obtain ⟨rest, hmap, -⟩ := whole?_eq_some_iff.mp h
      obtain ⟨u, hu, hpair⟩ := Option.map_eq_some_iff.mp hmap
      cases hpair
      exact leapEndsMinute_of_ofShown? (by decide) hu

theorem Timestamp.leapEndsMinute_of_ofText? {s : String} {t : Timestamp}
    (h : Timestamp.ofText? s = some t) : t.time.LeapEndsMinute := by
  obtain ⟨rest, hread, -⟩ := whole?_eq_some_iff.mp h
  simp only [Option.bind_eq_bind, Option.bind_eq_some_iff] at hread
  obtain ⟨⟨date, cs⟩, -, cs', -, ⟨time, cs''⟩, htime, h⟩ := hread
  cases h
  exact timeOfDay?_leapEndsMinute htime

/-! ## Ends of texts -/

theorem isBlank_of_mem_padded {width n : Nat} {c : Char} (h : c ∈ padded width n) :
    isBlank c = false := isBlank_of_isDigit (isDigit_of_mem_padded h)

theorem Date.isBlank_of_mem_chars {d : Date} {c : Char} (h : c ∈ d.chars) : isBlank c = false := by
  have hyear : ∀ c ∈ yearChars d.year, isBlank c = false := by
    intro c hc
    unfold yearChars at hc
    split at hc
    case isTrue => exact isBlank_of_mem_padded hc
    case isFalse =>
      rcases List.mem_cons.mp hc with rfl | hc
      · split <;> decide
      · exact isBlank_of_mem_padded hc
  simp only [Date.chars, List.mem_append, List.mem_cons] at h
  rcases h with (hc | rfl | hc) | rfl | hc
  · exact hyear c hc
  · decide
  · exact isBlank_of_mem_padded hc
  · decide
  · exact isBlank_of_mem_padded hc

theorem Time.isBlank_of_mem_chars {t : Time} {c : Char} (h : c ∈ t.chars) : isBlank c = false := by
  have hpoint : ∀ width n, ∀ c ∈ '.' :: padded width n, isBlank c = false := by
    intro width n c hc
    rcases List.mem_cons.mp hc with rfl | hc
    · decide
    · exact isBlank_of_mem_padded hc
  have hfraction : ∀ c ∈ fractionChars t.fraction, isBlank c = false := by
    intro c hc
    unfold fractionChars at hc
    split at hc
    case isTrue => cases hc
    case isFalse => split at hc <;> [skip; split at hc] <;> exact hpoint _ _ c hc
  simp only [Time.chars, List.mem_append, List.mem_cons] at h
  rcases h with ((hc | rfl | hc) | rfl | hc) | hc
  · exact isBlank_of_mem_padded hc
  · decide
  · exact isBlank_of_mem_padded hc
  · decide
  · exact isBlank_of_mem_padded hc
  · exact hfraction c hc

theorem Date.trim_text (d : Date) : trim d.text = d.text := by
  rw [trim, Date.text, String.toList_ofList,
    trimChars_of_not_blank fun c hc => Date.isBlank_of_mem_chars hc]

theorem Time.trim_text (t : Time) : trim t.text = t.text := by
  rw [trim, Time.text, String.toList_ofList,
    trimChars_of_not_blank fun c hc => Time.isBlank_of_mem_chars hc]

/-- The blank in the text of a timestamp is not at its ends. -/
theorem Timestamp.trim_text (t : Timestamp) : trim t.text = t.text := by
  have hdate : t.date.chars ≠ [] := by simp [Date.chars]
  have htime : t.time.chars ≠ [] := by simp [Time.chars]
  rw [trim, Timestamp.text, String.toList_ofList, Timestamp.chars, trimChars_of_ends]
  · intro c hc
    rw [List.head?_append_of_ne_nil _ hdate] at hc
    exact Date.isBlank_of_mem_chars (List.mem_of_head? hc)
  · intro c hc
    rw [List.getLast?_append_of_ne_nil _ (by simp), List.getLast?_cons_of_ne_nil htime] at hc
    exact Time.isBlank_of_mem_chars (List.mem_of_getLast? hc)

end AttributeRelease.Calendar
