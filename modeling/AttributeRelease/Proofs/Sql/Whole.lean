import AttributeRelease.Proofs.Number.Numeral
import AttributeRelease.Sql.Coerce

/-!
# Columns of whole numbers

A column that is declared to hold whole numbers of some width has the number that a value denotes if
the width has room for it, and no value otherwise: no number is cut off or comes around from the
other end.
-/

namespace AttributeRelease

open AttributeRelease.Number (WholeNumeral int?_eq_some_iff int64?_eq_some_iff)

/-- The whole number that a value denotes.  A truth value denotes zero or one, and a text or an
exact number what it is a numeral of, without the blanks at its ends. -/
inductive SqlValue.DenotesWhole : SqlValue → Int → Prop
  | integer (n : Int64) : DenotesWhole (.integer n) n.toInt
  | boolean (b : Bool) : DenotesWhole (.boolean b) b.toInt
  | text {s : String} {n : Int} (h : WholeNumeral (Text.trim s).toList n) :
      DenotesWhole (.text s) n
  | decimal {s : String} {n : Int} (h : WholeNumeral (Text.trim s).toList n) :
      DenotesWhole (.decimal s) n

/-- The numbers that two's complement has room for in so many bits. -/
def Representable (bits : Nat) (n : Int) : Prop := -2 ^ (bits - 1) ≤ n ∧ n < 2 ^ (bits - 1)

instance (bits : Nat) (n : Int) : Decidable (Representable bits n) :=
  inferInstanceAs (Decidable (_ ∧ _))

namespace ColumnType

/-- The width in bits of a type of whole numbers. -/
def width? : ColumnType → Option Nat
  | byte => some 8
  | short => some 16
  | integer => some 32
  | long => some 64
  | _ => none

theorem wholeNumber?_eq_some_iff {value : SqlValue} {i : Int64} :
    wholeNumber? value = some i ↔ value.DenotesWhole i.toInt := by
  constructor
  · intro h
    cases value with
    | integer n =>
        cases h
        exact .integer i
    | boolean b =>
        have hvalue := SqlValue.DenotesWhole.boolean b
        cases b <;> cases h <;> exact hvalue
    | text s => exact .text (int64?_eq_some_iff.mp h)
    | decimal s => exact .decimal (int64?_eq_some_iff.mp h)
    | _ => cases h
  · generalize hn : i.toInt = n
    intro h
    cases h with
    | integer k => rw [wholeNumber?, Int64.toInt_inj.mp hn]
    | boolean b => cases b <;> exact congrArg some (Int64.toInt_inj.mp hn.symm)
    | text h => exact int64?_eq_some_iff.mpr (hn ▸ h)
    | decimal h => exact int64?_eq_some_iff.mpr (hn ▸ h)

/-- The value that a column of so many bits has. -/
def whole? (bits : Nat) (value : SqlValue) : Option Value :=
  (wholeNumber? value).bind fun n =>
    if -2 ^ (bits - 1) ≤ n.toInt ∧ n.toInt ≤ 2 ^ (bits - 1) - 1 then some (.integer n) else none

theorem whole?_eq_some_iff {bits : Nat} {value : SqlValue} {v : Value} :
    whole? bits value = some v ↔
      ∃ i : Int64, v = .integer i ∧ value.DenotesWhole i.toInt ∧ Representable bits i.toInt := by
  simp only [whole?, Option.bind_eq_some_iff, wholeNumber?_eq_some_iff, Representable,
    Int.le_sub_one_iff]
  constructor
  · rintro ⟨i, hi, hv⟩
    split at hv
    case isTrue hrange => exact ⟨i, (Option.some.inj hv).symm, hi, hrange⟩
    case isFalse => cases hv
  · rintro ⟨i, rfl, hi, hrange⟩
    exact ⟨i, hi, if_pos hrange⟩

theorem coerce_eq_fit {type : ColumnType} {bits : Nat} (htype : type.width? = some bits)
    {value : SqlValue} (hvalue : value ≠ .null) :
    type.coerce value = type.fit value (whole? bits value) := by
  cases type <;> cases htype <;> cases value <;> first | rfl | exact absurd rfl hvalue

/-- A number that the width has room for is taken from every value that denotes it. -/
theorem coerce_of_denotes {type : ColumnType} {bits : Nat} (htype : type.width? = some bits)
    {value : SqlValue} {i : Int64} (hdenotes : value.DenotesWhole i.toInt)
    (hrange : Representable bits i.toInt) : type.coerce value = .ok (some (.integer i)) := by
  have hvalue : value ≠ .null := by
    rintro rfl
    cases hdenotes
  rw [coerce_eq_fit htype hvalue, whole?_eq_some_iff.mpr ⟨i, rfl, hdenotes, hrange⟩]
  rfl

/-- What has room in a type of whole numbers has room in 64 bits. -/
theorem exists_int64 {type : ColumnType} {bits : Nat} (htype : type.width? = some bits) {n : Int}
    (h : Representable bits n) : ∃ i : Int64, i.toInt = n := by
  have hbits : bits ≤ 64 := by cases type <;> cases htype <;> decide
  have hpow : (2 : Int) ^ (bits - 1) ≤ 2 ^ 63 := pow_le_pow_right₀ (by decide) (by omega)
  obtain ⟨hlow, hhigh⟩ := h
  exact ⟨Int64.ofInt n, Int64.toInt_ofInt_of_le (by omega) (by omega)⟩

/-- A column of whole numbers has the number that a value denotes, if the width has room for it.  It
has no other value, and whatever else it is given does not fit its type. -/
theorem coerce_whole {type : ColumnType} {bits : Nat} (htype : type.width? = some bits)
    {value : SqlValue} (hvalue : value ≠ .null) :
    (∀ v, type.coerce value = .ok v ↔ ∃ i : Int64, v = some (.integer i) ∧
      value.DenotesWhole i.toInt ∧ Representable bits i.toInt) ∧
    (∀ e, type.coerce value = .error e ↔ e = .mismatch value type ∧
      ¬ ∃ n, value.DenotesWhole n ∧ Representable bits n) := by
  by_cases hnumber : ∃ n, value.DenotesWhole n ∧ Representable bits n
  · obtain ⟨n, hdenotes, hrange⟩ := hnumber
    obtain ⟨i, rfl⟩ := exists_int64 htype hrange
    refine ⟨fun v => ⟨fun h => ?_, ?_⟩, fun e => ⟨fun h => ?_, fun h => ?_⟩⟩
    · rw [coerce_of_denotes htype hdenotes hrange, Except.ok.injEq] at h
      exact ⟨i, h.symm, hdenotes, hrange⟩
    · rintro ⟨j, rfl, hj, hjrange⟩
      exact coerce_of_denotes htype hj hjrange
    · simp [coerce_of_denotes htype hdenotes hrange] at h
    · exact absurd ⟨i.toInt, hdenotes, hrange⟩ h.2
  · have hnone : whole? bits value = none := by
      rw [Option.eq_none_iff_forall_ne_some]
      intro v hv
      obtain ⟨i, -, hi⟩ := whole?_eq_some_iff.mp hv
      exact hnumber ⟨i.toInt, hi⟩
    rw [coerce_eq_fit htype hvalue, hnone, fit]
    refine ⟨fun v => ⟨fun h => ?_, ?_⟩, fun e => ⟨fun h => ?_, ?_⟩⟩
    · cases h
    · rintro ⟨i, -, hi⟩
      exact absurd ⟨i.toInt, hi⟩ hnumber
    · cases h
      exact ⟨rfl, hnumber⟩
    · rintro ⟨rfl, -⟩
      rfl

/-- The least number of a byte, with blanks and leading zeros, and the next one below it. -/
theorem coerce_whole_byte :
    byte.width? = some 8 ∧ SqlValue.text " -0000000000000000000000128 " ≠ .null ∧
    byte.coerce (.text " -0000000000000000000000128 ") = .ok (some (.integer (-128))) ∧
    SqlValue.decimal "-129" ≠ .null ∧
    byte.coerce (.decimal "-129") = .error (.mismatch (.decimal "-129") byte) := by
  have hleast : SqlValue.DenotesWhole (.text " -0000000000000000000000128 ") (-128) :=
    .text (int?_eq_some_iff.mp rfl)
  have hbelow : ¬ ∃ n, SqlValue.DenotesWhole (.decimal "-129") n ∧ Representable 8 n := by
    rintro ⟨n, hdenotes, hrange⟩
    cases hdenotes with
    | decimal h =>
        cases int?_eq_some_iff.mpr h
        exact absurd hrange (by decide)
  refine ⟨rfl, by simp, ?_, by simp, ?_⟩
  · exact ((coerce_whole rfl (by simp)).1 _).mpr ⟨-128, rfl, hleast, by decide⟩
  · exact ((coerce_whole rfl (by simp)).2 _).mpr ⟨rfl, hbelow⟩

end ColumnType

end AttributeRelease
