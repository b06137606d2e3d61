import AttributeRelease.Derivation
import AttributeRelease.Proofs.Checks
import Mathlib.Data.List.Infix

/-!
# Texts of scoped values

A text is taken apart where its delimiter first occurs, and only if the delimiter does not occur
again behind that place.  So there is at most one way to take it apart, and putting the parts
together gives the text again.  A definition of scoped values has one for every value that it is
given, or fails at the first one that cannot be taken apart.
-/

namespace AttributeRelease

namespace Scoped

/-! ## The first occurrence of a delimiter -/

variable {d cs before after : List Char}

/-- The delimiter does not occur before the place of a split, not even reaching beyond it. -/
theorem not_prefix_of_cut? (h : cut? d cs = some (before, after)) {position : Nat}
    (hposition : position < before.length) : ¬ d <+: cs.drop position := by
  induction cs generalizing before position with
  | nil =>
      rw [cut?] at h
      split at h <;> cases h
      exact absurd hposition (Nat.not_lt_zero position)
  | cons c rest ih =>
      rw [cut?] at h
      split at h
      case isTrue =>
        cases h
        exact absurd hposition (Nat.not_lt_zero position)
      case isFalse hhere =>
        obtain ⟨⟨b, a⟩, hcut, heq⟩ := Option.map_eq_some_iff.mp h
        cases heq
        cases position with
        | zero => exact fun hstarts => hhere (List.isPrefixOf_iff_prefix.mpr hstarts)
        | succ position => exact ih hcut (Nat.lt_of_succ_lt_succ hposition)

/-- A text is split at an occurrence of the delimiter that has none before it. -/
theorem cut?_of_first (hd : d ≠ [])
    (hfirst : ∀ position < before.length, ¬ d <+: (before ++ d ++ after).drop position) :
    cut? d (before ++ d ++ after) = some (before, after) := by
  induction before with
  | nil =>
      obtain ⟨c, rest, rfl⟩ := List.exists_cons_of_ne_nil hd
      have hhere : (c :: rest).isPrefixOf (c :: (rest ++ after)) = true :=
        List.isPrefixOf_iff_prefix.mpr (List.prefix_append (c :: rest) after)
      change cut? (c :: rest) (c :: (rest ++ after)) = some ([], after)
      rw [cut?, if_pos hhere]
      simp
  | cons b more ih =>
      have hnext : cut? d (more ++ d ++ after) = some (more, after) := by
        apply ih
        intro position hposition
        exact hfirst (position + 1) (Nat.succ_lt_succ hposition)
      have hhere : ¬ d.isPrefixOf (b :: (more ++ d ++ after)) = true := by
        intro hstarts
        exact hfirst 0 (Nat.succ_pos _) (List.isPrefixOf_iff_prefix.mp hstarts)
      change cut? d (b :: (more ++ d ++ after)) = some (b :: more, after)
      rw [cut?, if_neg hhere, hnext]
      rfl

theorem cut?_eq_some_iff (hd : d ≠ []) : cut? d cs = some (before, after) ↔
    cs = before ++ d ++ after ∧ ∀ position < before.length, ¬ d <+: cs.drop position := by
  constructor
  · intro h
    exact ⟨eq_of_cut? h, fun _ hposition => not_prefix_of_cut? h hposition⟩
  · rintro ⟨rfl, hfirst⟩
    exact cut?_of_first hd hfirst

theorem cut?_eq_none_iff (hd : d ≠ []) : cut? d cs = none ↔ ¬ d <:+: cs := by
  induction cs with
  | nil => simp [cut?, hd]
  | cons c rest ih =>
      rw [cut?, List.infix_cons_iff, ← List.isPrefixOf_iff_prefix]
      split
      case isTrue hhere => simp [hhere]
      case isFalse hhere => simp [hhere, ih]

/-! ## Scoped texts -/

/-- A text consists of a value, the delimiter and a scope.  The delimiter is not empty; it does not
occur before the end of the value, nor in the scope. -/
structure Splits (raw delimiter : String) (s : Scoped) : Prop where
  nonempty : delimiter ≠ ""
  joined : raw = s.value ++ delimiter ++ s.scope
  first : ∀ position < s.value.length, ¬ delimiter.toList <+: raw.toList.drop position
  last : ¬ delimiter.toList <:+: s.scope.toList

variable {raw delimiter : String} {s : Scoped}

theorem splits_iff : s.Splits raw delimiter ↔ delimiter.toList ≠ [] ∧
    cut? delimiter.toList raw.toList = some (s.value.toList, s.scope.toList) ∧
    cut? delimiter.toList s.scope.toList = none := by
  have hempty : delimiter ≠ "" ↔ delimiter.toList ≠ [] := String.toList_eq_nil_iff.not.symm
  have hjoined : raw = s.value ++ delimiter ++ s.scope ↔
      raw.toList = s.value.toList ++ delimiter.toList ++ s.scope.toList := by
    rw [← String.toList_inj, String.toList_append, String.toList_append]
  constructor
  · intro h
    have hd := hempty.mp h.nonempty
    have hfirst := h.first
    rw [← String.length_toList] at hfirst
    exact ⟨hd, (cut?_eq_some_iff hd).mpr ⟨hjoined.mp h.joined, hfirst⟩,
      (cut?_eq_none_iff hd).mpr h.last⟩
  · rintro ⟨hd, hcut, hscope⟩
    obtain ⟨hlist, hfirst⟩ := (cut?_eq_some_iff hd).mp hcut
    rw [String.length_toList] at hfirst
    exact ⟨hempty.mpr hd, hjoined.mpr hlist, hfirst, (cut?_eq_none_iff hd).mp hscope⟩

theorem parse_eq_ok_iff : parse raw delimiter = .ok s ↔ s.Splits raw delimiter := by
  rw [splits_iff]
  constructor
  · intro h
    rw [parse] at h
    split at h
    case h_1 value scope hcut =>
      split at h
      case isTrue hparts =>
        cases h
        simpa only [String.toList_ofList] using ⟨hparts.1, hcut, hparts.2⟩
      case isFalse => cases h
    case h_2 => cases h
  · rintro ⟨hd, hcut, hscope⟩
    rw [parse]
    simp only [hcut]
    rw [if_pos ⟨hd, hscope⟩, String.ofList_toList, String.ofList_toList]

/-- The first of two occurrences that overlap counts. -/
example : parse "aaa" "aa" = .ok ⟨"", "a"⟩ := by decide

/-- A text that is not taken apart is refused, with the delimiter that it should have. -/
theorem parse_eq_error (h : ∀ s : Scoped, ¬ s.Splits raw delimiter) :
    parse raw delimiter = .error ⟨raw, delimiter⟩ := by
  cases hparse : parse raw delimiter with
  | ok s => exact absurd (parse_eq_ok_iff.mp hparse) (h s)
  | error e =>
      rw [parse] at hparse
      split at hparse
      · split at hparse <;> cases hparse
        rfl
      · cases hparse
        rfl

end Scoped

namespace Definition

/-! ## Definitions of scoped values -/

variable {σ : Type} {id delimiter : String}

/-- The scoped value of one value. -/
def scopedValue (id delimiter : String) (v : Value) : Except ResolutionError Value :=
  match Scoped.parse v.text delimiter with
  | .error e => .error (.attributeDefinition id e.message)
  | .ok parsed => .ok (.scoped parsed)

theorem scopedValues_eq_mapM (values : List Value) :
    scopedValues id delimiter values = values.mapM (scopedValue id delimiter) := rfl

theorem scopedValue_eq_ok_iff {v result : Value} : scopedValue id delimiter v = .ok result ↔
    ∃ s : Scoped, result = .scoped s ∧ s.Splits v.text delimiter := by
  simp only [← Scoped.parse_eq_ok_iff, scopedValue]
  constructor
  · intro h
    split at h
    case h_1 => cases h
    case h_2 s hparse =>
      cases h
      exact ⟨s, rfl, hparse⟩
  · rintro ⟨s, rfl, hparse⟩
    rw [hparse]

theorem scopedValue_eq_error_iff {v : Value} {e : ResolutionError} :
    scopedValue id delimiter v = .error e ↔
      (∀ s : Scoped, ¬ s.Splits v.text delimiter) ∧
        e = .attributeDefinition id (Scoped.NotScoped.message ⟨v.text, delimiter⟩) := by
  constructor
  · intro h
    have hnone : ∀ s : Scoped, ¬ s.Splits v.text delimiter := by
      intro s hsplits
      rw [scopedValue_eq_ok_iff.mpr ⟨s, rfl, hsplits⟩] at h
      cases h
    rw [scopedValue, Scoped.parse_eq_error hnone] at h
    cases h
    exact ⟨hnone, rfl⟩
  · rintro ⟨hnone, rfl⟩
    rw [scopedValue, Scoped.parse_eq_error hnone]

theorem exists_scopedValues_iff {values : List Value} :
    (∃ results, scopedValues id delimiter values = .ok results) ↔
      ∀ v ∈ values, ∃ s, Scoped.parse v.text delimiter = .ok s := by
  rw [scopedValues_eq_mapM, exists_mapM_eq_ok_iff]
  simp only [scopedValue_eq_ok_iff, Scoped.parse_eq_ok_iff]
  constructor
  · intro h v hv
    obtain ⟨_, s, -, hsplits⟩ := h v hv
    exact ⟨s, hsplits⟩
  · intro h v hv
    obtain ⟨s, hsplits⟩ := h v hv
    exact ⟨_, s, rfl, hsplits⟩

/-- A scoped value whose parts, with the delimiter between them, are the text of a value. -/
def Rejoins (delimiter : String) (v result : Value) : Prop :=
  ∃ s : Scoped, result = .scoped s ∧ s.value ++ delimiter ++ s.scope = v.text

theorem rejoins_of_scopedValues {values results : List Value}
    (h : scopedValues id delimiter values = .ok results) :
    List.Forall₂ (Rejoins delimiter) values results := by
  rw [scopedValues_eq_mapM, mapM_eq_ok_iff] at h
  refine h.imp fun v result hone => ?_
  obtain ⟨s, heq, hsplits⟩ := scopedValue_eq_ok_iff.mp hone
  exact ⟨s, heq, hsplits.joined.symm⟩

/-- Scoped values are shown with their usual delimiter. -/
theorem display_of_rejoins {values results : List Value}
    (h : List.Forall₂ (Rejoins Scoped.delimiter) values results) :
    results.map Value.display = values.map Value.text := by
  induction h with
  | nil => rfl
  | cons hfirst _ ih =>
      obtain ⟨s, rfl, htext⟩ := hfirst
      rw [List.map_cons, List.map_cons, ih, ← htext]
      rfl

/-- A text is taken apart at a delimiter that occurs once, and no other text is.  A definition of
scoped values succeeds if and only if the texts of all its values are taken apart; its results then
have these texts, which are also what they are shown as where the delimiter is the usual one.
Otherwise the first text that is not taken apart is named. -/
theorem prescoped_exact (settings : DefinitionSettings) (delimiter : String) (request : Request)
    (memo : Memo) (world : σ) :
    (∀ raw s, Scoped.parse raw delimiter = .ok s ↔ s.Splits raw delimiter) ∧
    (∀ raw, (∀ s : Scoped, ¬ s.Splits raw delimiter) →
      Scoped.parse raw delimiter = .error ⟨raw, delimiter⟩) ∧
    ((∃ a, (prescoped settings delimiter).resolve request memo world = (.ok a, world)) ↔
      ∀ v ∈ givenValues settings memo, ∃ s, Scoped.parse v.text delimiter = .ok s) ∧
    (∀ a w, (prescoped settings delimiter).resolve request memo world = (.ok a, w) →
      w = world ∧ a.id = settings.id ∧
        List.Forall₂ (Rejoins delimiter) (givenValues settings memo) a.values ∧
        (delimiter = Scoped.delimiter →
          a.values.map Value.display = (givenValues settings memo).map Value.text)) ∧
    (∀ e w, (prescoped settings delimiter).resolve request memo world = (.error e, w) →
      w = world ∧ ∃ before v after, givenValues settings memo = before ++ v :: after ∧
        (∀ u ∈ before, ∃ s, Scoped.parse u.text delimiter = .ok s) ∧
        (∀ s : Scoped, ¬ s.Splits v.text delimiter) ∧
        e = .attributeDefinition settings.id
          (Scoped.NotScoped.message ⟨v.text, delimiter⟩)) := by
  refine ⟨fun raw s => Scoped.parse_eq_ok_iff, fun raw => Scoped.parse_eq_error, ?_, ?_, ?_⟩
  · rw [← exists_scopedValues_iff]
    simp only [prescoped, derived_resolve_eq_ok_iff]
    constructor
    · rintro ⟨a, -, results, hresults, -⟩
      exact ⟨results, hresults⟩
    · rintro ⟨results, hresults⟩
      exact ⟨_, trivial, results, hresults, rfl⟩
  · intro a w h
    obtain ⟨rfl, results, hresults, rfl⟩ := derived_resolve_eq_ok_iff.mp h
    have hrejoins := rejoins_of_scopedValues hresults
    refine ⟨rfl, rfl, hrejoins, ?_⟩
    rintro rfl
    exact display_of_rejoins hrejoins
  · intro e w h
    obtain ⟨rfl, herror⟩ := derived_resolve_eq_error_iff.mp h
    obtain ⟨before, v, after, hvalues, hbefore, hv⟩ := mapM_eq_error_iff.mp herror
    obtain ⟨hnone, he⟩ := scopedValue_eq_error_iff.mp hv
    refine ⟨rfl, before, v, after, hvalues, ?_, hnone, he⟩
    intro u hu
    obtain ⟨_, hone⟩ := hbefore u hu
    obtain ⟨s, -, hsplits⟩ := scopedValue_eq_ok_iff.mp hone
    exact ⟨s, Scoped.parse_eq_ok_iff.mpr hsplits⟩

end Definition

end AttributeRelease
