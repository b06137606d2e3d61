import AttributeRelease.Mapping.Basic
import AttributeRelease.Proofs.Checks
import AttributeRelease.Proofs.Distinct

/-!
# Replaced values

The rules of a mapping stand in groups, one for each replacement.  A text that rules select is
replaced by the results of all of them, each result once.  One that no rule selects is kept,
replaced by the default, or dropped.  What a text is replaced by is a matter of the mapping alone,
so that the values of a mapped attribute are replaced one by one.
-/

namespace AttributeRelease

namespace Mapping

/-- The mapping of groups of rules, each group after those before it. -/
def ofGroups (groups : List (List (String → Option String))) (fallback : Option String)
    (passThrough : Bool) : Mapping :=
  ⟨groups.flatten, fallback, passThrough⟩

variable {groups : List (List (String → Option String))} {fallback : Option String}
  {passThrough : Bool} {text : String} {results : List String}

/-! ## Rules that select a text -/

/-- The results of the rules that select a text, group by group. -/
def selections (groups : List (List (String → Option String))) (text : String) : List String :=
  groups.flatMap fun rules => rules.filterMap fun rule => rule text

/-- No rule selects a text. -/
def Unselected (groups : List (List (String → Option String))) (text : String) : Prop :=
  ∀ rules ∈ groups, ∀ rule ∈ rules, rule text = none

theorem selections_eq_nil_iff : selections groups text = [] ↔ Unselected groups text := by
  simp only [selections, Unselected, List.flatMap_eq_nil_iff, List.filterMap_eq_nil_iff]

theorem results_ofGroups :
    (ofGroups groups fallback passThrough).results text = keepFirst (selections groups text) := by
  rw [results, ofGroups, List.filterMap_flatten, ← List.flatMap_def, selections]

/-! ## The default -/

/-- What stands for a text that no rule selects: the default, if there is one that is not empty. -/
inductive Defaults (fallback : Option String) : List String → Prop
  | given {text : String} (given : fallback = some text) (nonempty : text ≠ "") :
      Defaults fallback [text]
  | missing (missing : ∀ text, fallback = some text → text = "") : Defaults fallback []

theorem defaults_iff {m : Mapping} : Defaults m.fallback results ↔ results = m.default?.toList := by
  rw [default?]
  constructor
  · intro h
    cases h with
    | given hgiven hnonempty => simp [hgiven, Option.filter, hnonempty]
    | missing hmissing =>
        suffices hnone : m.fallback.filter (· ≠ "") = none by rw [hnone, Option.toList_none]
        apply Option.filter_eq_none_iff.mpr
        intro text htext
        simpa using hmissing text htext
  · rintro rfl
    cases hdefault : m.fallback.filter (· ≠ "") with
    | none =>
        apply Defaults.missing
        intro text htext
        simpa using Option.filter_eq_none_iff.mp hdefault text htext
    | some text =>
        obtain ⟨hgiven, hnonempty⟩ := Option.filter_eq_some_iff.mp hdefault
        exact .given hgiven (of_decide_eq_true hnonempty)

theorem defaults_default (groups : List (List (String → Option String)))
    (fallback : Option String) (passThrough : Bool) :
    Defaults fallback (ofGroups groups fallback passThrough).default?.toList :=
  defaults_iff (m := ofGroups groups fallback passThrough).mpr rfl

/-! ## Replacements -/

/-- What a text is replaced by: the results of the rules that select it, each of them once.  If
there are no such rules, it is kept, or the default stands for it. -/
inductive Replaces (groups : List (List (String → Option String))) (fallback : Option String)
    (passThrough : Bool) (text : String) : List String → Prop
  | selected {results : List String} (selected : ¬ Unselected groups text)
      (once : FirstOccurrences (selections groups text) results) :
      Replaces groups fallback passThrough text results
  | kept (unselected : Unselected groups text) (keeps : passThrough = true) :
      Replaces groups fallback passThrough text [text]
  | defaulted {results : List String} (unselected : Unselected groups text)
      (drops : passThrough = false) (default : Defaults fallback results) :
      Replaces groups fallback passThrough text results

theorem replace_of_selected (h : ¬ Unselected groups text) :
    (ofGroups groups fallback passThrough).replace text = keepFirst (selections groups text) := by
  have hsome : keepFirst (selections groups text) ≠ [] := by
    obtain ⟨result, hresult⟩ := List.exists_mem_of_ne_nil _ (selections_eq_nil_iff.not.mpr h)
    exact List.ne_nil_of_mem (mem_keepFirst.mpr hresult)
  rw [replace, results_ofGroups]
  split
  · next hnone => exact absurd hnone hsome
  · rfl

theorem replace_of_unselected (h : Unselected groups text) :
    (ofGroups groups fallback passThrough).replace text =
      if passThrough then [text] else (ofGroups groups fallback passThrough).default?.toList := by
  rw [replace, results_ofGroups, selections_eq_nil_iff.mpr h]
  rfl

theorem replaces_iff : Replaces groups fallback passThrough text results ↔
    results = (ofGroups groups fallback passThrough).replace text := by
  constructor
  · intro h
    cases h with
    | selected hselected honce =>
        rw [replace_of_selected hselected, firstOccurrences_iff.mp honce]
    | kept hnone hkeeps => rw [replace_of_unselected hnone, if_pos hkeeps]
    | defaulted hnone hdrops hdefault =>
        rw [replace_of_unselected hnone, hdrops]
        exact defaults_iff.mp hdefault
  · rintro rfl
    by_cases hnone : Unselected groups text
    · rw [replace_of_unselected hnone]
      split
      case isTrue hkeeps => exact .kept hnone hkeeps
      case isFalse hdrops =>
        exact .defaulted hnone (Bool.eq_false_iff.mpr hdrops) (defaults_default ..)
    · rw [replace_of_selected hnone]
      exact .selected hnone (firstOccurrences_keepFirst _)

/-- Where texts are kept or there is a default, every text is replaced by something. -/
theorem Replaces.ne_nil (h : Replaces groups fallback passThrough text results)
    (hsome : passThrough = true ∨ ∃ default, fallback = some default ∧ default ≠ "") :
    results ≠ [] := by
  cases h with
  | selected hselected honce =>
      obtain ⟨result, hresult⟩ :=
        List.exists_mem_of_ne_nil _ (selections_eq_nil_iff.not.mpr hselected)
      exact List.ne_nil_of_mem ((honce.members result).mpr hresult)
  | kept => exact List.cons_ne_nil _ _
  | defaulted _ hdrops hdefault =>
      rcases hsome with hkeeps | ⟨default, hgiven, hnonempty⟩
      · rw [hdrops] at hkeeps
        cases hkeeps
      · rintro rfl
        cases hdefault with
        | missing hmissing => exact hnonempty (hmissing default hgiven)

/-- A mapping is accepted unless it keeps texts and has a default as well. -/
theorem check_eq_ok_iff {m : Mapping} {id : String} :
    m.check id = .ok () ↔
      ¬ (m.passThrough = true ∧ ∃ default, m.fallback = some default ∧ default ≠ "") := by
  have hdefault : m.default?.isSome = true ↔
      ∃ default, m.fallback = some default ∧ default ≠ "" := by
    simp [default?, Option.any_eq_true]
  rw [← hdefault, check, ← Bool.and_eq_true]
  split
  case isTrue hboth => simp [hboth]
  case isFalse hnot => simp [hnot]

/-! ## Compiled rules -/

/-- A rule selects the texts in which its pattern occurs, and has them with what stands for the
pattern put in its place. -/
def CompilesTo (rule : MappingRule) (group : List (String → Option String)) : Prop :=
  List.Forall₂ (fun source select => ∃ p, source.compile = .ok p ∧
    select = p.substitute? rule.replacement) rule.sources group

theorem compileSource_eq_ok_iff {id replacement : String} {source : SourceRule}
    {select : String → Option String} : compileSource id replacement source = .ok select ↔
      ∃ p, source.compile = .ok p ∧ select = p.substitute? replacement := by
  rw [compileSource]
  cases source.compile <;> simp [eq_comm]

/-- The rules of a compiled mapping stand in groups, one for each replacement. -/
theorem ofGroups_of_compile {id : String} {rules : List MappingRule} {m : Mapping}
    (h : compile id rules fallback passThrough = .ok m) :
    ∃ groups, List.Forall₂ CompilesTo rules groups ∧ m = ofGroups groups fallback passThrough := by
  rw [compile] at h
  split at h
  case h_1 => cases h
  case h_2 groups hgroups =>
    cases h
    refine ⟨groups, (mapM_eq_ok_iff.mp hgroups).imp fun rule group hgroup => ?_, rfl⟩
    exact (mapM_eq_ok_iff.mp hgroup).imp fun source select => compileSource_eq_ok_iff.mp

end Mapping

namespace Definition

open Mapping

variable {σ : Type}

/-- A mapped definition replaces its values one by one, whatever they are and whatever rules select
them: blank values are passed over, and every other one is replaced as its text is.  Without any
values the default stands alone.  No value is lost where texts are kept or there is a default; a
definition that is accepted does not have both.  Compiled rules are such rules, in their order. -/
theorem mapped_replaces (settings : DefinitionSettings)
    (groups : List (List (String → Option String))) (fallback : Option String)
    (passThrough : Bool) :
    (∃ replacements : String → List String,
      (∀ text results, Replaces groups fallback passThrough text results ↔
        results = replacements text) ∧
      (passThrough = true ∨ (∃ default, fallback = some default ∧ default ≠ "") →
        ∀ text, replacements text ≠ []) ∧
      ∀ (request : Request) (memo : Memo) (s : σ), ∃ outputs : List String,
        (mapped settings (ofGroups groups fallback passThrough)).resolve request memo s =
          (.ok { id := settings.id, values := outputs.map .string }, s) ∧
        (givenValues settings memo = [] → Defaults fallback outputs) ∧
        (givenValues settings memo ≠ [] →
          outputs = ((givenValues settings memo).filter fun v => !v.isBlank).flatMap fun v =>
            replacements v.text)) ∧
    ((ofGroups groups fallback passThrough).check settings.id = .ok () ↔
      ¬ (passThrough = true ∧ ∃ default, fallback = some default ∧ default ≠ "")) ∧
    ∀ rules m, Mapping.compile settings.id rules fallback passThrough = .ok m →
      ∃ compiled, List.Forall₂ CompilesTo rules compiled ∧
        m = ofGroups compiled fallback passThrough := by
  refine ⟨⟨(ofGroups groups fallback passThrough).replace, fun text results => replaces_iff,
    fun hsome text => (replaces_iff.mpr rfl).ne_nil hsome, ?_⟩, check_eq_ok_iff,
    fun rules m => ofGroups_of_compile⟩
  intro request memo s
  rw [mapped, derived_resolve]
  by_cases hvalues : givenValues settings memo = []
  · refine ⟨(ofGroups groups fallback passThrough).default?.toList, ?_, ?_, ?_⟩
    · rw [hvalues]
      rfl
    · intro _
      exact defaults_default ..
    · intro hsome
      exact absurd hvalues hsome
  · refine ⟨_, ?_, ?_, fun _ => rfl⟩
    · rw [Except.map, Mapping.apply, if_neg (List.isEmpty_iff.not.mpr hvalues), List.map_flatMap]
    · intro hnone
      exact absurd hnone hvalues

/-- Results are repeated for several values, but not for several rules. -/
example : (ofGroups [[fun text => if text = "staff" then some "member" else none],
    [fun _ => some "member"]] none false).apply [.string "staff", .string "", .string "guest"] =
    [.string "member", .string "member"] := by
  decide

end Definition

end AttributeRelease
