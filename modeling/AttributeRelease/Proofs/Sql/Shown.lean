import AttributeRelease.Proofs.Sql.Whole
import AttributeRelease.Proofs.Value.Codec

/-!
# Values and the texts that they are shown by

A database can give a value of the very type that its column was declared to have, or the text that
the value is shown by.  For whole numbers, truth values and days that makes no difference, and for
times of day and timestamps none where they are whole seconds and no leap seconds within a minute.
The text of a fraction of a second is refused, although the value itself is taken, and that of a
leap second within a minute is the text of the second after it.
-/

namespace AttributeRelease

open AttributeRelease.Calendar (Date Time Timestamp)
open AttributeRelease.Number (wholeNumeral_repr)

namespace SqlValue

/-- Values of the very type of their columns, for the types that texts are read as too. -/
inductive Native : ColumnType → SqlValue → Prop
  | long (n : Int64) : Native .long (.integer n)
  | boolean (b : Bool) : Native .boolean (.boolean b)
  | date (d : Date) : Native .date (.date d)
  | time (t : Time) : Native .time (.time t)
  | timestamp (t : Timestamp) : Native .timestamp (.timestamp t)

/-- The nanoseconds of a value that are no whole second. -/
def fraction : SqlValue → Nat
  | time t => t.fraction
  | timestamp t => t.time.fraction
  | _ => 0

end SqlValue

namespace ColumnType

theorem coerce_long_of_denotes {value : SqlValue} {n : Int64} (h : value.DenotesWhole n.toInt) :
    long.coerce value = .ok (some (.integer n)) :=
  coerce_of_denotes rfl h ⟨n.le_toInt, n.toInt_lt⟩

theorem coerce_long_repr (n : Int64) :
    long.coerce (.text n.toInt.repr) = .ok (some (.integer n)) := by
  have hnumeral := wholeNumeral_repr n.toInt
  refine coerce_long_of_denotes (.text ?_)
  rwa [hnumeral.trim]

theorem coerce_date_text (d : Date) : date.coerce (.text d.text) = .ok (some (.date d)) := by
  simp [coerce, bounds?, other?, d.trim_text, Date.ofColumn?_text, fit]

theorem coerce_time_text (t : Time) :
    time.coerce (.text t.text) =
      if t.fraction = 0 then .ok (some (.time t.asShown))
      else .error (.mismatch (.text t.text) time) := by
  by_cases h : t.fraction = 0 <;>
    simp [coerce, bounds?, other?, t.trim_text, Time.ofColumn?_text, fit, h]

theorem coerce_timestamp_text (t : Timestamp) :
    timestamp.coerce (.text t.text) =
      if t.time.fraction = 0 then .ok (some (.timestamp t.asShown))
      else .error (.mismatch (.text t.text) timestamp) := by
  by_cases h : t.time.fraction = 0 <;>
    simp [coerce, bounds?, other?, t.trim_text, Timestamp.ofColumn?_text, fit, h]

/-- A column of texts shows a value, and a column of the value's own type has the value; given the
shown text instead, it has what the text shows, or refuses it. -/
theorem exists_shown {type : ColumnType} {value : SqlValue} (h : value.Native type) :
    ∃ s v, value.native? = some v ∧ string.coerce value = .ok (some (.string s)) ∧
      type.coerce value = .ok (some v) ∧
      type.coerce (.text s) =
        if value.fraction = 0 then .ok (some v.asShown) else .error (.mismatch (.text s) type) := by
  cases h with
  | long n =>
      have hnative := coerce_long_of_denotes (.integer n)
      exact ⟨n.toInt.repr, .integer n, rfl, rfl, hnative, coerce_long_repr n⟩
  | boolean b =>
      exact ⟨if b then "true" else "false", .boolean b, rfl, rfl, rfl, by cases b <;> rfl⟩
  | date d => exact ⟨d.text, .date d, rfl, rfl, rfl, coerce_date_text d⟩
  | time t => exact ⟨t.text, .time t, rfl, rfl, rfl, coerce_time_text t⟩
  | timestamp t => exact ⟨t.text, .timestamp t, rfl, rfl, rfl, coerce_timestamp_text t⟩

/-- A column of texts shows a value, and a column of the value's own type has the value.  Given the
shown text instead, it refuses a fraction of a second and otherwise has what the text shows.  So it
has the value itself just where this is in whole seconds, and in no leap second within a minute. -/
theorem coerce_shown {type : ColumnType} {value : SqlValue} (h : value.Native type) :
    ∃ s v, value.native? = some v ∧ string.coerce value = .ok (some (.string s)) ∧
      type.coerce value = .ok (some v) ∧
      type.coerce (.text s) =
        (if value.fraction = 0 then .ok (some v.asShown)
          else .error (.mismatch (.text s) type)) ∧
      (type.coerce (.text s) = type.coerce value ↔ value.fraction = 0 ∧ v.LeapEndsMinute) := by
  obtain ⟨s, v, hnative, hshown, hvalue, htext⟩ := exists_shown h
  refine ⟨s, v, hnative, hshown, hvalue, htext, ?_⟩
  rw [htext, hvalue]
  by_cases hfraction : value.fraction = 0
  · rw [if_pos hfraction, and_iff_right hfraction, ← Value.asShown_eq_self_iff]
    exact ⟨fun hsame => Option.some.inj (Except.ok.inj hsame), fun hsame => by rw [hsame]⟩
  · rw [if_neg hfraction]
    exact iff_of_false (fun hsame => nomatch hsame) fun hboth => hfraction hboth.1

/-- A leap second at the end of a year that has a sign. -/
def leapSecond : Timestamp :=
  ⟨⟨12345, 12, 31, by decide⟩, ⟨23, 59, 59, 1000000000, by decide⟩⟩

/-- A leap second within a minute. -/
def innerLeapSecond : Time := ⟨23, 56, 4, 1000000000, by decide⟩

/-- Half a second after noon. -/
def halfSecond : Time := ⟨12, 0, 0, 500000000, by decide⟩

theorem coerce_shown_leapSecond :
    SqlValue.Native timestamp (.timestamp leapSecond) ∧
    timestamp.coerce (.text "+12345-12-31 23:59:60") = .ok (some (.timestamp leapSecond)) ∧
    SqlValue.Native time (.time innerLeapSecond) ∧
    time.coerce (.text "23:56:05") ≠ time.coerce (.time innerLeapSecond) ∧
    SqlValue.Native time (.time halfSecond) ∧
    time.coerce (.text "12:00:00.500") = .error (.mismatch (.text "12:00:00.500") time) := by
  obtain ⟨s, v, hv, hshown, hvalue, -, hsame⟩ := coerce_shown (.timestamp leapSecond)
  obtain ⟨i, w, hw, hshownInner, -, -, hsameInner⟩ := coerce_shown (.time innerLeapSecond)
  obtain ⟨r, u, -, hshownHalf, -, hread, -⟩ := coerce_shown (.time halfSecond)
  have hs : s = "+12345-12-31 23:59:60" := by
    cases hshown
    decide
  have hi : i = "23:56:05" := by
    cases hshownInner
    decide
  have hr : r = "12:00:00.500" := by
    cases hshownHalf
    decide
  subst hs hi hr
  cases hv
  cases hw
  refine ⟨.timestamp leapSecond, ?_, .time innerLeapSecond, ?_, .time halfSecond, hread⟩
  · exact (hsame.mpr ⟨rfl, fun _ => rfl⟩).trans hvalue
  · intro heq
    have hends : innerLeapSecond.LeapEndsMinute := (hsameInner.mp heq).2
    exact absurd hends (by decide)

/-- Half a second after noon is taken as it is, and refused as the text that it is shown by. -/
theorem coerce_shown_halfSecond :
    string.coerce (.time halfSecond) = .ok (some (.string "12:00:00.500")) ∧
    time.coerce (.time halfSecond) = .ok (some (.time halfSecond)) ∧
    time.coerce (.text "12:00:00.500") ≠ time.coerce (.time halfSecond) := by
  refine ⟨by decide, rfl, ?_⟩
  have hshown : "12:00:00.500" = halfSecond.text := by decide
  rw [hshown, coerce_time_text, if_neg (by decide)]
  exact fun h => nomatch h

end ColumnType

end AttributeRelease
