import AttributeRelease.Proofs.Number.Notation
import AttributeRelease.Sql.Coerce

/-!
# Columns of exact numbers

A column that is declared to hold exact numbers keeps them as decimal texts.  Whole numbers, finite
numbers and the texts of numbers get a numeral that denotes what they do, and nothing else has a
number, with one exception: what is no finite number is kept by its name.
-/

namespace AttributeRelease

open AttributeRelease.Number (Binary64 Numeral Spells Style wholeNumeral_repr)

namespace SqlValue

/-- A numeral denotes the same number as a value. -/
inductive Denotes : SqlValue → Numeral → Prop
  | integer {i : Int64} {n : Numeral} (h : n.value = i.toInt) : Denotes (.integer i) n
  | float {x : Binary64} {n : Numeral} (hfinite : x.isFinite) (h : n.Denotes x) :
      Denotes (.float x) n
  | text {s : String} {n k : Numeral} (hk : Spells (Text.trim s).toList k)
      (h : n.value = k.value) : Denotes (.text s) n

/-- A value is an infinite number or none at all, or the name of such a one. -/
inductive Unbounded : SqlValue → Prop
  | float {x : Binary64} (h : ¬ x.isFinite) : Unbounded (.float x)
  | text {s : String} (h : Number.Unbounded (Text.trim s).toList) : Unbounded (.text s)

end SqlValue

namespace ColumnType

variable {value : SqlValue}

/-- A column of exact numbers has a numeral of what a value denotes. -/
def Exact (value : SqlValue) : Prop :=
  ∃ t n, bigDecimal.coerce value = .ok (some (.decimal t)) ∧ Spells t.toList n ∧ value.Denotes n

theorem exact_integer (i : Int64) : Exact (.integer i) := by
  obtain ⟨n, hspells, hvalue⟩ := (wholeNumeral_repr i.toInt).spells
  exact ⟨i.toInt.repr, n, rfl, hspells, .integer hvalue⟩

theorem exact_float {x : Binary64} (hfinite : x.isFinite) : Exact (.float x) := by
  obtain ⟨n, hspells, hdenotes⟩ := Style.plain.write_spells hfinite
  refine ⟨x.text, n, rfl, ?_, .float hfinite hdenotes⟩
  rwa [Binary64.text, String.toList_ofList]

theorem coerce_bigDecimal_text (s : String) :
    bigDecimal.coerce (.text s) = if (Number.binary64? (Text.trim s)).isSome
      then .ok (some (.decimal (Text.trim s))) else .error (.mismatch (.text s) bigDecimal) := by
  cases h : (Number.binary64? (Text.trim s)).isSome <;>
    simp [coerce, bounds?, other?, fit, h]

theorem exact_text {s : String} {n : Numeral} (h : Spells (Text.trim s).toList n) :
    Exact (.text s) := by
  have hread := Number.isSome_binary64?_iff.mpr (.inl ⟨n, h⟩)
  exact ⟨Text.trim s, n, by rw [coerce_bigDecimal_text, if_pos hread], h, .text h rfl⟩

/-- A column of exact numbers has the numeral that a value is written by, and it denotes what the
value does.  Only what is no finite number is kept too, although its name is no numeral. -/
theorem coerce_bigDecimal (hnull : value ≠ .null) (hdecimal : ∀ s, value ≠ .decimal s) :
    (value.Unbounded → ∃ t, bigDecimal.coerce value = .ok (some (.decimal t)) ∧
      Number.Unbounded t.toList) ∧
    (¬ value.Unbounded → Exact value ∨
      (bigDecimal.coerce value = .error (.mismatch value bigDecimal) ∧
        ∀ n, ¬ value.Denotes n)) := by
  constructor
  · intro hunbounded
    cases hunbounded with
    | float h =>
      refine ⟨_, rfl, ?_⟩
      rw [Binary64.text, String.toList_ofList]
      exact Style.plain.write_unbounded h
    | text h =>
      have hread := Number.isSome_binary64?_iff.mpr (.inr h)
      exact ⟨_, by rw [coerce_bigDecimal_text, if_pos hread], h⟩
  · intro hbounded
    cases value with
    | null => exact absurd rfl hnull
    | decimal s => exact absurd rfl (hdecimal s)
    | integer i => exact .inl (exact_integer i)
    | float x =>
      have hfinite : x.isFinite := by
        by_contra h
        exact hbounded (.float h)
      exact .inl (exact_float hfinite)
    | text s =>
      by_cases hspells : ∃ n, Spells (Text.trim s).toList n
      · exact .inl (exact_text hspells.choose_spec)
      · have hread : ¬ (Number.binary64? (Text.trim s)).isSome := by
          rw [Number.isSome_binary64?_iff]
          exact fun h => h.elim hspells fun h => hbounded (.text h)
        right
        rw [coerce_bigDecimal_text, if_neg hread]
        exact ⟨rfl, fun n hn => by cases hn with | text hk => exact hspells ⟨_, hk⟩⟩
    | _ => exact .inr ⟨rfl, fun n hn => by cases hn⟩

/-- A text with blanks around it, a point and an exponent. -/
theorem coerce_bigDecimal_exponent :
    SqlValue.text " -1.50E3 " ≠ .null ∧ (∀ s, SqlValue.text " -1.50E3 " ≠ .decimal s) ∧
    ¬ SqlValue.Unbounded (.text " -1.50E3 ") ∧ Exact (.text " -1.50E3 ") := by
  have hspells : Spells (Text.trim " -1.50E3 ").toList ⟨true, 150, 2, 3⟩ :=
    .intro .minus (Number.unsigned?_eq_some_iff.mp rfl)
  have hbounded : ¬ SqlValue.Unbounded (.text " -1.50E3 ") := by
    intro h
    cases h with
    | text h => exact hspells.not_unbounded h
  refine ⟨by simp, by simp, hbounded, ?_⟩
  rcases (coerce_bigDecimal (by simp) (by simp)).2 hbounded with hexact | ⟨-, hnone⟩
  · exact hexact
  · exact absurd (.text hspells rfl) (hnone ⟨true, 150, 2, 3⟩)

/-- The name of what is no number is kept, and is no numeral. -/
theorem coerce_bigDecimal_nan :
    bigDecimal.coerce (.text "NaN") = .ok (some (.decimal "NaN")) ∧
    ¬ ∃ n, Spells "NaN".toList n := by
  refine ⟨by rw [coerce_bigDecimal_text]; rfl, ?_⟩
  rintro ⟨n, h⟩
  exact h.not_unbounded (.intro .absent (by decide))

end ColumnType

end AttributeRelease
