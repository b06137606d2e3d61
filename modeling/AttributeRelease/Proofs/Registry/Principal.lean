import AttributeRelease.Proofs.Text.Blank
import AttributeRelease.Resolver

/-!
# The choice of a principal connector

A subject identifier is looked up by the first connector for its format that lists the requester.
If there is none, the first one for the format that serves everybody takes its place.  Further
connectors, wherever they are added, make a difference to the choice only by being chosen.
-/

namespace AttributeRelease

variable {σ α : Type}

/-! ## First members of a list -/

/-- A member of a list has a property, and none before it does. -/
def IsFirst (has : α → Prop) (items : List α) (a : α) : Prop :=
  ∃ before after, items = before ++ a :: after ∧ has a ∧ ∀ b ∈ before, ¬ has b

theorem find?_eq_some_iff_isFirst {test : α → Bool} {has : α → Prop}
    (htest : ∀ a, test a = true ↔ has a) {items : List α} {a : α} :
    items.find? test = some a ↔ IsFirst has items a := by
  simp only [IsFirst, List.find?_eq_some_iff_append, ← htest, Bool.not_eq_true', Bool.not_eq_true]
  constructor
  · rintro ⟨ha, before, after, heq, hbefore⟩
    exact ⟨before, after, heq, ha, hbefore⟩
  · rintro ⟨before, after, heq, ha, hbefore⟩
    exact ⟨ha, before, after, heq, hbefore⟩

/-- Further members are put into a list, each of them anywhere. -/
inductive Inserted : (further items all : List α) → Prop
  | nil : Inserted [] [] []
  | old {further items all : List α} (a : α) (rest : Inserted further items all) :
      Inserted further (a :: items) (a :: all)
  | new {further items all : List α} (a : α) (rest : Inserted further items all) :
      Inserted (a :: further) items (a :: all)

/-- The first member that passes a test is the same, or it is a further one. -/
theorem Inserted.find? {further items all : List α} (h : Inserted further items all)
    (test : α → Bool) :
    all.find? test = items.find? test ∨ ∃ a ∈ further, all.find? test = some a := by
  induction h with
  | nil => exact .inl rfl
  | old a _ ih =>
      rw [List.find?_cons, List.find?_cons]
      cases test a with
      | true => exact .inl rfl
      | false => exact ih
  | new a _ ih =>
      rw [List.find?_cons]
      cases test a with
      | true => exact .inr ⟨a, List.mem_cons_self, rfl⟩
      | false =>
          rcases ih with hsame | ⟨b, hb, hfirst⟩
          · exact .inl hsame
          · exact .inr ⟨b, List.mem_cons_of_mem a hb, hfirst⟩

/-! ## The connector that is chosen -/

namespace PrincipalConnector

/-- A connector is for a format, and has the requester among its relying parties. -/
def ServesByName (format : String) (requester : Option String) (p : PrincipalConnector σ) : Prop :=
  p.format = format ∧ ∃ party, requester = some party ∧ party ∈ p.relyingParties

/-- A connector is for a format, and for no relying parties in particular. -/
def ServesEverybody (format : String) (p : PrincipalConnector σ) : Prop :=
  p.format = format ∧ p.relyingParties = []

/-- The choice among connectors: the first one that serves the requester by name, or else the first
one that serves everybody, if there is one. -/
inductive Chosen (format : String) (requester : Option String) (ps : List (PrincipalConnector σ)) :
    Option (PrincipalConnector σ) → Prop
  | byName {p : PrincipalConnector σ} (first : IsFirst (ServesByName format requester) ps p) :
      Chosen format requester ps (some p)
  | everybody {p : PrincipalConnector σ} (unnamed : ∀ q ∈ ps, ¬ q.ServesByName format requester)
      (first : IsFirst (ServesEverybody format) ps p) : Chosen format requester ps (some p)
  | nobody (unnamed : ∀ q ∈ ps, ¬ q.ServesByName format requester)
      (unserved : ∀ q ∈ ps, ¬ q.ServesEverybody format) : Chosen format requester ps none

variable {format : String} {requester : Option String} {p : PrincipalConnector σ}
  {ps : List (PrincipalConnector σ)}

/-- Whether a connector serves a requester by name. -/
def servesByName (format : String) (requester : Option String) (p : PrincipalConnector σ) : Bool :=
  p.format == format && Registry.lists requester p

/-- Whether a connector serves everybody. -/
def servesEverybody (format : String) (p : PrincipalConnector σ) : Bool :=
  p.format == format && p.relyingParties.isEmpty

theorem servesByName_iff :
    p.servesByName format requester = true ↔ p.ServesByName format requester := by
  simp [servesByName, ServesByName, Registry.lists, Option.any_eq_true]

theorem servesEverybody_iff : p.servesEverybody format = true ↔ p.ServesEverybody format := by
  simp [servesEverybody, ServesEverybody]

/-- A connector that serves the requester by name is taken.  Another one is remembered if it serves
everybody and none is remembered so far. -/
theorem choosePrincipal_cons (everybody : Option (PrincipalConnector σ)) :
    Registry.choosePrincipal format requester everybody (p :: ps) =
      if p.servesByName format requester then some p
      else Registry.choosePrincipal format requester
        (everybody.or (if p.servesEverybody format then some p else none)) ps := by
  rw [Registry.choosePrincipal]
  by_cases hformat : p.format = format
  · by_cases hopen : p.relyingParties.isEmpty = true
    · -- nobody is listed, so the requester is not
      have hlists : Registry.lists requester p = false := by
        cases requester <;> simp [Registry.lists, List.isEmpty_iff.mp hopen]
      simp [servesByName, servesEverybody, hformat, hopen, hlists]
    · simp [servesByName, servesEverybody, hformat, hopen]
  · simp [servesByName, servesEverybody, hformat]

/-- Going through the connectors gives the first one that serves the requester by name; or else the
one that is remembered, or the first one that serves everybody. -/
theorem choosePrincipal_eq (everybody : Option (PrincipalConnector σ)) :
    Registry.choosePrincipal format requester everybody ps =
      (ps.find? (servesByName format requester)).or
        (everybody.or (ps.find? (servesEverybody format))) := by
  induction ps generalizing everybody with
  | nil => simp [Registry.choosePrincipal]
  | cons p rest ih =>
      rw [choosePrincipal_cons, List.find?_cons, List.find?_cons]
      cases p.servesByName format requester with
      | true => rfl
      | false =>
          rw [if_neg Bool.false_ne_true, ih, Option.or_assoc]
          cases p.servesEverybody format <;> rfl

theorem find?_servesByName_eq_none_iff : ps.find? (servesByName format requester) = none ↔
    ∀ p ∈ ps, ¬ p.ServesByName format requester := by
  simp only [List.find?_eq_none, servesByName_iff]

theorem find?_servesEverybody_eq_none_iff : ps.find? (servesEverybody format) = none ↔
    ∀ p ∈ ps, ¬ p.ServesEverybody format := by
  simp only [List.find?_eq_none, servesEverybody_iff]

/-- There is always one choice, and it is what going through the connectors comes to. -/
theorem chosen_iff {choice : Option (PrincipalConnector σ)} : Chosen format requester ps choice ↔
    choice = Registry.choosePrincipal format requester none ps := by
  rw [choosePrincipal_eq, Option.none_or]
  constructor
  · intro h
    cases h with
    | byName first =>
        rw [(find?_eq_some_iff_isFirst fun _ => servesByName_iff).mpr first, Option.some_or]
    | everybody unnamed first =>
        rw [find?_servesByName_eq_none_iff.mpr unnamed,
          (find?_eq_some_iff_isFirst fun _ => servesEverybody_iff).mpr first, Option.none_or]
    | nobody unnamed unserved =>
        rw [find?_servesByName_eq_none_iff.mpr unnamed,
          find?_servesEverybody_eq_none_iff.mpr unserved, Option.none_or]
  · rintro rfl
    cases hname : ps.find? (servesByName format requester) with
    | some p => exact .byName ((find?_eq_some_iff_isFirst fun _ => servesByName_iff).mp hname)
    | none =>
        have hunnamed := find?_servesByName_eq_none_iff.mp hname
        rw [Option.none_or]
        cases heverybody : ps.find? (servesEverybody format) with
        | some p =>
            exact .everybody hunnamed
              ((find?_eq_some_iff_isFirst fun _ => servesEverybody_iff).mp heverybody)
        | none => exact .nobody hunnamed (find?_servesEverybody_eq_none_iff.mp heverybody)

/-- With further connectors the choice is the same, or it is one of them. -/
theorem choosePrincipal_inserted {further all : List (PrincipalConnector σ)}
    (h : Inserted further ps all) :
    Registry.choosePrincipal format requester none all =
        Registry.choosePrincipal format requester none ps ∨
      ∃ p ∈ further, Registry.choosePrincipal format requester none all = some p := by
  simp only [choosePrincipal_eq, Option.none_or]
  rcases h.find? (servesByName format requester) with hname | ⟨p, hp, hname⟩
  · rw [hname]
    cases ps.find? (servesByName format requester) with
    | some p => exact .inl rfl
    | none => exact h.find? (servesEverybody format)
  · rw [hname]
    exact .inr ⟨p, hp, rfl⟩

end PrincipalConnector

/-! ## Formats of subject identifiers -/

namespace Request

variable {request : Request}

/-- The format that counts for a request: the one that its subject identifier states, or the
unspecified one where it states none or a blank one, or there is no subject identifier. -/
inductive Presents (request : Request) : String → Prop
  | stated {subject : Subject} {format : String} (presented : request.subject = some subject)
      (states : subject.format? = some format)
      (notBlank : ∃ c ∈ format.toList, Text.isBlank c = false) : Presents request format
  | unspecified (unstated : ∀ subject format, request.subject = some subject →
      subject.format? = some format → ∀ c ∈ format.toList, Text.isBlank c = true) :
      Presents request unspecifiedFormat

theorem Presents.eq_subjectFormat {format : String} (h : request.Presents format) :
    format = request.subjectFormat := by
  cases h with
  | stated hpresented hstates hnotBlank =>
      have htrim : Text.trim format ≠ "" := by
        intro hempty
        obtain ⟨c, hc, hblank⟩ := hnotBlank
        rw [Text.trim_eq_empty_iff.mp hempty c hc] at hblank
        cases hblank
      simp [subjectFormat, hpresented, Subject.format, hstates, htrim]
  | unspecified hunstated =>
      rw [subjectFormat]
      cases hpresented : request.subject with
      | none => rfl
      | some subject =>
          cases hstates : subject.format? with
          | none => simp [Subject.format, hstates]
          | some format =>
              have htrim : Text.trim format = "" :=
                Text.trim_eq_empty_iff.mpr (hunstated subject format hpresented hstates)
              simp [Subject.format, hstates, htrim]

theorem presents_iff {format : String} :
    request.Presents format ↔ format = request.subjectFormat := by
  refine ⟨Presents.eq_subjectFormat, ?_⟩
  suffices h : ∃ f, request.Presents f by
    obtain ⟨f, hf⟩ := h
    rintro rfl
    rwa [← hf.eq_subjectFormat]
  by_cases hunstated : ∀ subject format, request.subject = some subject →
      subject.format? = some format → ∀ c ∈ format.toList, Text.isBlank c = true
  · exact ⟨_, .unspecified hunstated⟩
  · push Not at hunstated
    obtain ⟨subject, format, hpresented, hstates, c, hc, hblank⟩ := hunstated
    exact ⟨format, .stated hpresented hstates ⟨c, hc, Bool.eq_false_iff.mpr hblank⟩⟩

end Request

/-! ## Answers -/

namespace Resolver

open PrincipalConnector (Chosen chosen_iff choosePrincipal_inserted)

/-- What a principal connector answers once its dependencies have been resolved. -/
def askPrincipal (e : Resolver σ) (request : Request) (p : PrincipalConnector σ) (s : σ) :
    Except ResolutionError String × σ :=
  match e.registry.resolveDependencies p.dependencies (.start request) s with
  | (.error err, _, s) => (.error err, s)
  | (.ok (), x, s) => p.resolve x.request x.memo s

/-- A request is answered by the principal connector that is chosen for its format and requester; if
none is, that is the error.  There is one choice for any connectors, format and requester, and
further connectors change it only if one of them is chosen. -/
theorem principal_chosen (e : Resolver σ) (request : Request) :
    (∀ format, request.Presents format ↔ format = request.subjectFormat) ∧
    (∀ format requester choice, Chosen format requester e.registry.principals choice ↔
      choice = e.registry.principal? format requester) ∧
    (∀ choice, Chosen request.subjectFormat request.requester e.registry.principals choice →
      ∀ s, e.resolvePrincipal request s =
        match choice with
        | some p => e.askPrincipal request p s
        | none =>
          (.error (.noPrincipalConnector request.subjectFormat (request.requester.getD "")), s)) ∧
    ∀ further all, Inserted further e.registry.principals all →
      ∀ format requester choice, Chosen format requester all choice →
        Chosen format requester e.registry.principals choice ∨ ∃ p ∈ further, choice = some p := by
  refine ⟨fun format => Request.presents_iff, fun format requester choice => chosen_iff, ?_, ?_⟩
  · intro choice hchoice s
    have heq : e.registry.principal? request.subjectFormat request.requester = choice :=
      (chosen_iff.mp hchoice).symm
    cases choice with
    | none => simp only [resolvePrincipal, heq]
    | some p =>
        simp only [resolvePrincipal, heq]
        rfl
  · intro further all hinserted format requester choice hchoice
    rw [chosen_iff] at hchoice ⊢
    rw [hchoice]
    exact choosePrincipal_inserted hinserted

end Resolver

end AttributeRelease
