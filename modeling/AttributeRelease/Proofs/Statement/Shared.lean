import AttributeRelease.Proofs.Statement.Cached
import Mathlib.Data.List.Induction

/-!
# Connectors that share a cache

A cache knows a result by its statement only, and not by the connector that asked.  So a connector
that shares its cache answers as if the others had never been asked, unless one of them has asked
the same statement: then it may answer with what the other one made of it.  The connectors may have
their templates from one place or each from its own.
-/

namespace AttributeRelease

variable {σ ι : Type} {c : CacheAccess σ} {usual : σ → Prop} {t : ι → Templates}
  {q : ι → Inquiry σ} {answers : ι → String → Except ResolutionError AttributeMap}

namespace Inquiry

/-- The world after requests to several inquiries. -/
def after (q : ι → Inquiry σ) (calls : List (ι × Request × Memo)) (s : σ) : σ :=
  calls.foldl (fun s (i, request, memo) => ((q i).resolve request memo s).2) s

/-- Every entry is what an inquiry made of the statement for one of these requests to it. -/
def Traced (c : CacheAccess σ) (t : ι → Templates) (q : ι → Inquiry σ)
    (answers : ι → String → Except ResolutionError AttributeMap)
    (calls : List (ι × Request × Memo)) (s : σ) : Prop :=
  ∀ f ∈ c.entries s, ∃ i call, (i, call) ∈ calls ∧
    (q i).question (t i) call = .ok f.key ∧ answers i f.key = .ok f.result

theorem after_concat (q : ι → Inquiry σ) (calls : List (ι × Request × Memo)) (i : ι)
    (call : Request × Memo) (s : σ) :
    after q (calls ++ [(i, call)]) s = ((q i).resolve call.1 call.2 (after q calls s)).2 := by
  rw [after, List.foldl_append]
  rfl

/-- By induction on the requests, the last one first: it makes one entry at most. -/
theorem traced_after (h : ∀ i, (q i).Answers c usual (t i) (answers i)) (hapart : c.Apart usual)
    (calls : List (ι × Request × Memo)) {s : σ} (hs : usual s) (hempty : c.entries s = []) :
    usual (after q calls s) ∧ Traced c t q answers calls (after q calls s) := by
  induction calls using List.reverseRecOn with
  | nil =>
      refine ⟨hs, ?_⟩
      intro f hf
      rw [after, List.foldl_nil, hempty] at hf
      exact absurd hf List.not_mem_nil
  | append_singleton calls last ih =>
      obtain ⟨i, call⟩ := last
      obtain ⟨husual, htraced⟩ := ih
      have hcall := (h i).answered hapart call husual
      rw [after_concat]
      refine ⟨hcall.usual, ?_⟩
      intro f hf
      rcases hcall.kept f hf with hold | ⟨hquestion, hanswer⟩
      · obtain ⟨j, other, hother, hquestion, hanswer⟩ := htraced f hold
        exact ⟨j, other, List.mem_append_left _ hother, hquestion, hanswer⟩
      · exact ⟨i, call, by simp, hquestion, hanswer⟩

/-- Requests to one inquiry leave nothing but what its source says. -/
theorem Traced.faithful {calls : List (ι × Request × Memo)} {s : σ}
    (h : Traced c t q answers calls s) {i : ι} (honly : ∀ other ∈ calls, other.1 = i) :
    c.Faithful (answers i) s := by
  intro f hf
  obtain ⟨j, other, hother, -, hanswer⟩ := h f hf
  obtain rfl : j = i := honly _ hother
  exact hanswer

/-- With a shared cache, an inquiry has the reply of its own source, or else what another one made
of the same statement. -/
theorem Traced.result {calls : List (ι × Request × Memo)} {s : σ}
    (h : Traced c t q answers calls s) {i : ι} {call : Request × Memo}
    {out : Except ResolutionError AttributeMap × σ}
    (hcall : c.Answered usual ((q i).question (t i) call) (answers i) s out) :
    out.1 = (q i).reply (t i) (answers i) call ∨
      ∃ j other m, j ≠ i ∧ (j, other) ∈ calls ∧
        (q j).question (t j) other = (q i).question (t i) call ∧
        (q j).reply (t j) (answers j) other = .ok m ∧ out.1 = .ok m := by
  rcases hcall.result with hreply | ⟨f, hf, hquestion, hresult⟩
  · exact .inl hreply
  · obtain ⟨j, other, hother, hsame, hanswer⟩ := h f hf
    have hreply : (q j).reply (t j) (answers j) other = .ok f.result := by
      rw [reply, hsame]
      exact hanswer
    by_cases hji : j = i
    · subst hji
      refine .inl ?_
      rw [hresult, reply, hquestion]
      exact hanswer.symm
    · exact .inr ⟨j, other, f.result, hji, hother, hsame.trans hquestion.symm, hreply, hresult⟩

end Inquiry

/-! ## A register and its archive -/

/-- A desk for a register, and the templates of its archive. -/
structure Bureau where
  desk : Desk
  archive : Templates

namespace Bureau

def deskPart : Part Bureau Desk where
  get := desk
  set d s := { s with desk := d }

/-- The register and the archive have their templates in different places. -/
def templatesPart : Bool → Part Bureau Templates
  | true => { get := archive, set := fun t s => { s with archive := t } }
  | false => deskPart.comp Desk.templatesPart

def cacheAccess : CacheAccess Bureau where
  cache := deskPart.comp Desk.cacheAccess.cache
  clock s := (s.desk.time, { s with desk := (Desk.cacheAccess.clock s.desk).2 })

/-- What the database of the register answers to every statement, and what the one of the archive
does. -/
def rows : Bool → List SqlRow
  | true => [[("mail", .text "old@example.org")]]
  | false => [[("mail", .text "new@example.org")]]

/-- The register, or its archive, which goes by the same name. -/
def query (archived : Bool) : DatabaseQuery Bureau where
  settings := { plugin := { id := "register" } }
  templates := templatesPart archived
  database :=
    { query := fun _ _ s => (.ok (rows archived), s)
      connect := fun s => (.ok (), s)
      storedProcedures := false }
  cache := some cacheAccess

def mailTemplate : String :=
  "SELECT mail FROM people WHERE uid = \x27\x7b\x7brequestContext.principalName\x7d\x7d\x27"

/-- The templates of the register, and those of the archive. -/
def templates (archived : Bool) : Templates :=
  (Inquiry.registerTemplate (query archived).settings .whole mailTemplate .empty).2

/-- Nothing was asked yet. -/
def opened : Bureau where
  desk :=
    { templates := templates false
      cache := .empty {}
      connections := .unpooled
      time := 0 }
  archive := templates true

/-- Nobody changes the templates. -/
def Attended (s : Bureau) : Prop :=
  s.desk.templates = templates false ∧ s.archive = templates true

def inquiry (archived : Bool) : Inquiry Bureau := (query archived).inquiry

def replies (archived : Bool) : String → Except ResolutionError AttributeMap :=
  (query archived).reading fun _ => .ok (rows archived)

theorem inquiry_fromSource (archived : Bool) :
    Inquiry.FromSource cacheAccess Attended (templates archived) (inquiry archived)
      (replies archived) := by
  refine .database ⟨rfl, ?_, fun _ _ hs => ⟨rfl, hs, rfl⟩⟩
  intro s hs
  cases archived with
  | true => exact hs.2
  | false => exact hs.1

theorem cacheAccess_apart : cacheAccess.Apart Attended where
  clock _ hs := hs
  cache_clock _ _ := rfl
  set _ _ hs := hs

theorem attended_opened : Attended opened := by simp only [Attended, opened, and_self]

/-- The addresses that the register answers with for Jane after other requests. -/
def janeMail (calls : List (Bool × Request × Memo)) : Option (List (List Value)) :=
  ((inquiry false).resolve (Desk.callFor "jdoe").1 (Desk.callFor "jdoe").2
    (Inquiry.after inquiry calls opened)).1.toOption.map fun m => m.map (·.2.values)

end Bureau

/-! ## Sharing -/

namespace Inquiry

open Desk (callFor)
open Bureau (opened inquiry janeMail)

/-- With a shared cache, a connector answers as if no other had been asked, or else with what
another one made of the same statement.  So it makes no difference to share a cache with connectors
that make the same of the statements that they have in common. -/
theorem resolve_shared [DecidableEq ι] (h : ∀ i, FromSource c usual (t i) (q i) (answers i))
    (hapart : c.Apart usual) {s : σ} (hs : usual s) (hempty : c.entries s = [])
    (calls : List (ι × Request × Memo)) (i : ι) (call : Request × Memo) :
    let shared := ((q i).resolve call.1 call.2 (after q calls s)).1
    let alone := ((q i).resolve call.1 call.2 (after q (calls.filter fun o => o.1 = i) s)).1
    (shared = alone ∨ ∃ j other m, j ≠ i ∧ (j, other) ∈ calls ∧
      (q j).question (t j) other = (q i).question (t i) call ∧
      (q j).reply (t j) (answers j) other = .ok m ∧ shared = .ok m) ∧
    ((∀ j other, (j, other) ∈ calls →
        (q j).question (t j) other = (q i).question (t i) call →
        (q j).reply (t j) (answers j) other = (q i).reply (t i) (answers i) call) →
      shared = alone) := by
  intro shared alone
  have hanswers : ∀ i, (q i).Answers c usual (t i) (answers i) := fun i => (h i).toAnswers
  have halone : alone = (q i).reply (t i) (answers i) call := by
    obtain ⟨husual, htraced⟩ :=
      traced_after hanswers hapart (calls.filter fun o => o.1 = i) hs hempty
    refine ((hanswers i).answered hapart call husual).result_of_faithful (htraced.faithful ?_)
    intro o ho
    exact of_decide_eq_true (List.mem_filter.mp ho).2
  obtain ⟨husual, htraced⟩ := traced_after hanswers hapart calls hs hempty
  have hshared := htraced.result ((hanswers i).answered hapart call husual)
  constructor
  · rcases hshared with hreply | hother
    · exact .inl (hreply.trans halone.symm)
    · exact .inr hother
  · intro hsame
    rcases hshared with hreply | ⟨j, other, m, -, hmem, hquestion, hreply, hresult⟩
    · exact hreply.trans halone.symm
    · rw [halone, ← hsame j other hmem hquestion, hreply]
      exact hresult

/-- The archive was asked for somebody else. -/
theorem resolve_shared_elsewhere :
    ((inquiry false).resolve (callFor "jdoe").1 (callFor "jdoe").2
      (after inquiry [(true, callFor "rroe")] opened)).1 =
    ((inquiry false).resolve (callFor "jdoe").1 (callFor "jdoe").2
      (after inquiry [] opened)).1 := by
  have hother : (inquiry true).question (Bureau.templates true) (callFor "rroe") ≠
      (inquiry false).question (Bureau.templates false) (callFor "jdoe") := by decide +kernel
  refine (resolve_shared Bureau.inquiry_fromSource Bureau.cacheAccess_apart Bureau.attended_opened
    rfl [(true, callFor "rroe")] false (callFor "jdoe")).2 ?_
  intro j other hmem hquestion
  cases List.mem_singleton.mp hmem
  exact absurd hquestion hother

/-- The archive was asked for Jane, and the register answers with the address from the archive. -/
theorem resolve_shared_archive :
    (∀ archived, FromSource Bureau.cacheAccess Bureau.Attended (Bureau.templates archived)
      (inquiry archived) (Bureau.replies archived)) ∧
    Bureau.cacheAccess.Apart Bureau.Attended ∧ Bureau.Attended opened ∧
    Bureau.cacheAccess.entries opened = [] ∧
    janeMail ([(true, callFor "jdoe")].filter fun o => o.1 = false) =
      some [[.string "new@example.org"]] ∧
    janeMail [(true, callFor "jdoe")] = some [[.string "old@example.org"]] := by
  refine ⟨Bureau.inquiry_fromSource, Bureau.cacheAccess_apart, Bureau.attended_opened, rfl, ?_, ?_⟩
  · decide +kernel
  · decide +kernel

end Inquiry

end AttributeRelease
