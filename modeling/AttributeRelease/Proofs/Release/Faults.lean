import AttributeRelease.Proofs.Release.Outcome

/-!
# Faults of a release

A built-in criterion has an answer to every question about a value, so a release fails only where
the requirement of a policy does.  That fails where a part of it is asked that is about values and
names no attribute.  Criteria and policies are gone through from left to right, and the first fault
that is met is the one that is reported.
-/

namespace AttributeRelease

variable {σ α : Type}

/-! ## The first fault of a list -/

/-- An item is found when all items in front of it let pass. -/
def Reached (passes found : α → Prop) (items : List α) : Prop :=
  ∃ before a after, items = before ++ a :: after ∧ (∀ b ∈ before, passes b) ∧ found a

theorem not_reached_nil {passes found : α → Prop} : ¬ Reached passes found [] := by
  rintro ⟨before, a, after, heq, -⟩
  cases before <;> cases heq

theorem reached_cons_iff {passes found : α → Prop} {a : α} {rest : List α} :
    Reached passes found (a :: rest) ↔ found a ∨ passes a ∧ Reached passes found rest := by
  constructor
  · rintro ⟨before, b, after, heq, hbefore, hb⟩
    cases before with
    | nil =>
        cases heq
        exact .inl hb
    | cons first before =>
        cases heq
        obtain ⟨hfirst, hbefore⟩ := List.forall_mem_cons.mp hbefore
        exact .inr ⟨hfirst, before, b, after, rfl, hbefore, hb⟩
  · rintro (ha | ⟨ha, before, b, after, rfl, hbefore, hb⟩)
    · exact ⟨[], a, rest, rfl, fun _ h => absurd h List.not_mem_nil, ha⟩
    · exact ⟨a :: before, b, after, rfl, List.forall_mem_cons.mpr ⟨ha, hbefore⟩, hb⟩

theorem reached_congr {passes found found' : α → Prop} {items : List α}
    (h : ∀ a ∈ items, found a ↔ found' a) :
    Reached passes found items ↔ Reached passes found' items := by
  constructor
  · rintro ⟨before, a, after, rfl, hbefore, ha⟩
    exact ⟨before, a, after, rfl, hbefore, (h a (by simp)).mp ha⟩
  · rintro ⟨before, a, after, rfl, hbefore, ha⟩
    exact ⟨before, a, after, rfl, hbefore, (h a (by simp)).mpr ha⟩

/-- Items that are asked in order fail where the first one does that does not let the others have
their turn. -/
theorem error_iff_reached {ε β : Type} {answer : α → Except ε β} (run : List α → Except ε β)
    {b : β} {items : List α} {e : ε} (hnil : run [] = .ok b)
    (hpass : ∀ a ∈ items, ∀ rest, answer a = .ok b → run (a :: rest) = run rest)
    (hend : ∀ a ∈ items, ∀ rest, answer a ≠ .ok b → run (a :: rest) = answer a) :
    run items = .error e ↔
      Reached (fun a => answer a = .ok b) (fun a => answer a = .error e) items := by
  induction items with
  | nil => simp [hnil, not_reached_nil]
  | cons a rest ih =>
      have hrest := ih (fun c hc => hpass c (List.mem_cons_of_mem a hc))
        (fun c hc => hend c (List.mem_cons_of_mem a hc))
      rw [reached_cons_iff, ← hrest]
      by_cases ha : answer a = .ok b
      · rw [hpass a List.mem_cons_self rest ha]
        simp [ha]
      · rw [hend a List.mem_cons_self rest ha]
        simp [ha]

namespace Criterion

/-! ## Criteria -/

/-- A criterion on values that names no attribute, and its fault when a policy is in question. -/
inductive Nameless : Criterion σ → CriterionError → Prop
  | value (matcher : Matcher) : Nameless (.value none matcher) .valueWithoutAttribute
  | scope (matcher : Matcher) : Nameless (.scope none matcher) .scopeWithoutAttribute

/-- The parts of a criterion that are asked when it is asked whether a policy applies.  Members have
their turn from left to right: those of `all` while the ones before them hold, those of `any` while
the ones before them do not. -/
inductive Asks (facts : Facts) (s : σ) : Criterion σ → Criterion σ → Prop
  | self (c : Criterion σ) : Asks facts s c c
  | all {before after : List (Criterion σ)} {c part : Criterion σ}
      (hold : ∀ d ∈ before, (d.evaluate facts .applies s).1 = .ok true)
      (asked : Asks facts s c part) : Asks facts s (.all (before ++ c :: after)) part
  | any {before after : List (Criterion σ)} {c part : Criterion σ}
      (fail : ∀ d ∈ before, (d.evaluate facts .applies s).1 = .ok false)
      (asked : Asks facts s c part) : Asks facts s (.any (before ++ c :: after)) part
  | not {c part : Criterion σ} (asked : Asks facts s c part) : Asks facts s (.not c) part

/-- A part that is asked has a fault. -/
def AsksNameless (facts : Facts) (s : σ) (e : CriterionError) (c : Criterion σ) : Prop :=
  ∃ part, c.Asks facts s part ∧ part.Nameless e

variable {facts : Facts} {s : σ} {e : CriterionError}

theorem asksNameless_all_iff {members : List (Criterion σ)} :
    AsksNameless facts s e (.all members) ↔
      Reached (fun c => (c.evaluate facts .applies s).1 = .ok true) (AsksNameless facts s e)
        members := by
  constructor
  · rintro ⟨part, asked, nameless⟩
    cases asked with
    | self => cases nameless
    | all hold asked => exact ⟨_, _, _, rfl, hold, part, asked, nameless⟩
  · rintro ⟨before, c, after, rfl, hold, part, asked, nameless⟩
    exact ⟨part, .all hold asked, nameless⟩

theorem asksNameless_any_iff {members : List (Criterion σ)} :
    AsksNameless facts s e (.any members) ↔
      Reached (fun c => (c.evaluate facts .applies s).1 = .ok false) (AsksNameless facts s e)
        members := by
  constructor
  · rintro ⟨part, asked, nameless⟩
    cases asked with
    | self => cases nameless
    | any fail asked => exact ⟨_, _, _, rfl, fail, part, asked, nameless⟩
  · rintro ⟨before, c, after, rfl, fail, part, asked, nameless⟩
    exact ⟨part, .any fail asked, nameless⟩

theorem asksNameless_not_iff {c : Criterion σ} :
    AsksNameless facts s e (.not c) ↔ AsksNameless facts s e c := by
  constructor
  · rintro ⟨part, asked, nameless⟩
    cases asked with
    | self => cases nameless
    | not asked => exact ⟨part, asked, nameless⟩
  · rintro ⟨part, asked, nameless⟩
    exact ⟨part, .not asked, nameless⟩

/-- A criterion without members has no fault but its own. -/
theorem asksNameless_iff_nameless {c : Criterion σ}
    (simple : ∀ part, c.Asks facts s part → part = c) :
    AsksNameless facts s e c ↔ c.Nameless e := by
  constructor
  · rintro ⟨part, asked, nameless⟩
    rw [← simple part asked]
    exact nameless
  · exact fun nameless => ⟨c, .self c, nameless⟩

/-! ## Members -/

theorem evaluateAll_error_iff {members : List (Criterion σ)}
    (state : ∀ c ∈ members, (c.evaluate facts .applies s).2 = s) :
    (evaluateAll facts .applies members s).1 = .error e ↔
      Reached (fun c => (c.evaluate facts .applies s).1 = .ok true)
        (fun c => (c.evaluate facts .applies s).1 = .error e) members := by
  refine error_iff_reached (fun members => (evaluateAll facts .applies members s).1) rfl ?_ ?_
  · intro c hc rest hanswer
    have heval : c.evaluate facts .applies s = (.ok true, s) := Prod.ext hanswer (state c hc)
    simp only [evaluateAll, heval]
  · intro c hc rest hanswer
    rw [evaluateAll]
    split
    · next heval => exact absurd (congrArg Prod.fst heval) hanswer
    · rfl

theorem evaluateAny_error_iff {members : List (Criterion σ)}
    (state : ∀ c ∈ members, (c.evaluate facts .applies s).2 = s) :
    (evaluateAny facts .applies members s).1 = .error e ↔
      Reached (fun c => (c.evaluate facts .applies s).1 = .ok false)
        (fun c => (c.evaluate facts .applies s).1 = .error e) members := by
  refine error_iff_reached (fun members => (evaluateAny facts .applies members s).1) rfl ?_ ?_
  · intro c hc rest hanswer
    have heval : c.evaluate facts .applies s = (.ok false, s) := Prod.ext hanswer (state c hc)
    simp only [evaluateAny, heval]
  · intro c hc rest hanswer
    rw [evaluateAny]
    split
    · next heval => exact absurd (congrArg Prod.fst heval) hanswer
    · rfl

theorem negate_error_iff {answer : Answer σ} :
    (negate answer).1 = .error e ↔ answer.1 = .error e := by
  obtain ⟨result, s⟩ := answer
  cases result <;> simp [negate]

/-- A test of values fails for a policy if no attribute is named. -/
theorem testValues_error_iff {target : Option String} {missing : CriterionError}
    {test : Value → Bool} :
    testValues facts target missing test .applies = .error e ↔ target = none ∧ missing = e := by
  cases target <;> simp [testValues]

/-- A requirement fails where a part is asked that should name an attribute and does not. -/
theorem BuiltIn.evaluate_error_iff {c : Criterion σ} (h : c.BuiltIn) :
    (c.evaluate facts .applies s).1 = .error e ↔ c.AsksNameless facts s e := by
  induction h with
  | @all members builtIn ih =>
      rw [asksNameless_all_iff, ← reached_congr ih,
        ← evaluateAll_error_iff fun c hc => (builtIn c hc).evaluate_snd facts .applies s]
      -- without members it does not hold, where the run through them says that it does
      cases members with
      | nil => simp [evaluate, evaluateAll]
      | cons c rest => rfl
  | any builtIn ih =>
      rw [asksNameless_any_iff, ← reached_congr ih,
        ← evaluateAny_error_iff fun c hc => (builtIn c hc).evaluate_snd facts .applies s]
      rfl
  | not _ ih => rw [asksNameless_not_iff, ← ih, evaluate, negate_error_iff]
  | value target matcher =>
      rw [evaluate, testValues_error_iff, asksNameless_iff_nameless (by rintro part ⟨⟩; rfl)]
      constructor
      · rintro ⟨rfl, rfl⟩
        exact .value matcher
      · rintro ⟨⟩
        exact ⟨rfl, rfl⟩
  | scope target matcher =>
      rw [evaluate, testValues_error_iff, asksNameless_iff_nameless (by rintro part ⟨⟩; rfl)]
      constructor
      · rintro ⟨rfl, rfl⟩
        exact .scope matcher
      · rintro ⟨⟩
        exact ⟨rfl, rfl⟩
  | _ =>
      rw [asksNameless_iff_nameless (by rintro part ⟨⟩; rfl)]
      constructor
      · intro h
        simp [evaluate] at h
      · rintro ⟨⟩

end Criterion

/-! ## Policies -/

namespace Selection

/-- Policies fail where a requirement does, and the ones before it can be evaluated. -/
theorem applyPolicies_error_iff {policies : List (Policy σ)} (hbuilt : ∀ p ∈ policies, p.BuiltIn)
    {sel : Selection σ} {s : σ} {e : CriterionError} :
    (sel.applyPolicies policies s).1 = .error e ↔
      Reached (fun p => ∃ answer, (p.requirement.evaluate sel.facts .applies s).1 = .ok answer)
        (fun p => (p.requirement.evaluate sel.facts .applies s).1 = .error e) policies := by
  induction policies generalizing sel with
  | nil => simp [applyPolicies, not_reached_nil]
  | cons p rest ih =>
      have hp := hbuilt p List.mem_cons_self
      have hrest : ∀ q ∈ rest, q.BuiltIn := fun q hq => hbuilt q (List.mem_cons_of_mem p hq)
      rw [reached_cons_iff, applyPolicies]
      cases hanswer : (p.requirement.evaluate sel.facts .applies s).1 with
      | error e' =>
          have heval : p.requirement.evaluate sel.facts .applies s = (.error e', s) :=
            Prod.ext hanswer (hp.requirement.evaluate_snd _ _ s)
          simp [heval]
      | ok answer =>
          rw [(applies_eq hp hanswer).1]
          cases answer with
          | false => simp [ih hrest]
          | true =>
              obtain ⟨mid, hmid, hrules⟩ := applyRules_follows hp.rules sel s
              have hfacts : mid.facts = sel.facts := hrules.facts
              simp [hmid, ih hrest, hfacts]

end Selection

namespace ReleaseEngine

/-- An engine fails where its policies do, since whatever is withheld can be told. -/
theorem filter_error_iff {e : ReleaseEngine σ} (hbuilt : ∀ p ∈ e.policies, p.BuiltIn)
    {attributes : AttributeMap} {request : Request} {s : σ} {err : CriterionError} :
    (e.filter attributes request s).1 = .error err ↔
      ((Selection.start ⟨attributes, request⟩).applyPolicies e.policies s).1 = .error err := by
  cases happlied : (Selection.start ⟨attributes, request⟩).applyPolicies e.policies s with
  | mk result s' =>
      cases result with
      | error err' =>
          have hfails : e.filter attributes request s = (.error err', s') := by
            obtain ⟨id, policies⟩ := e
            cases policies with
            | nil => cases happlied
            | cons p rest =>
                change (Selection.start ⟨attributes, request⟩).applyPolicies (p :: rest) s = _
                  at happlied
                simp only [filter, happlied]
          simp [hfails]
      | ok sel =>
          have hanswered : Selection.Answered e.policies ⟨attributes, request⟩ s :=
            Selection.answered_of_applyPolicies hbuilt happlied
          obtain ⟨m, hm, -⟩ := filter_of_answered hbuilt hanswered
          simp [hm]

/-- An engine of built-in criteria fails if and only if it has a policy whose requirement fails, and
with the fault of the first of these.  No criterion fails on a value.  A requirement fails if and
only if a part of it is asked that is about values or scopes and names no attribute. -/
theorem filter_fails_iff {e : ReleaseEngine σ} (hbuilt : ∀ p ∈ e.policies, p.BuiltIn)
    (attributes : AttributeMap) (request : Request) (s : σ) :
    ((∃ err, (e.filter attributes request s).1 = .error err) ↔
      e.policies ≠ [] ∧ ∃ p ∈ e.policies, ∃ err,
        (p.requirement.evaluate ⟨attributes, request⟩ .applies s).1 = .error err) ∧
    (∀ err, (e.filter attributes request s).1 = .error err ↔
      ∃ before p after, e.policies = before ++ p :: after ∧
        (∀ q ∈ before, ∃ answer,
          (q.requirement.evaluate ⟨attributes, request⟩ .applies s).1 = .ok answer) ∧
        (p.requirement.evaluate ⟨attributes, request⟩ .applies s).1 = .error err) ∧
    (∀ (c : Criterion σ), c.BuiltIn → ∀ (facts : Facts) (id : String) (v : Value) (s : σ),
      (∃ answer, c.evaluate facts (.permits id v) s = (.ok answer, s)) ∧
        ∃ answer, c.evaluate facts (.denies id v) s = (.ok answer, s)) ∧
    ∀ (c : Criterion σ), c.BuiltIn → ∀ (facts : Facts) (s : σ) (err : CriterionError),
      (c.evaluate facts .applies s).1 = .error err ↔
        ∃ part, c.Asks facts s part ∧ part.Nameless err := by
  have hfirst : ∀ err, (e.filter attributes request s).1 = .error err ↔ _ := fun err =>
    (filter_error_iff hbuilt).trans (Selection.applyPolicies_error_iff hbuilt)
  refine ⟨?_, hfirst, ?_, fun c hc facts s err => hc.evaluate_error_iff⟩
  · constructor
    · rintro ⟨err, herr⟩
      obtain ⟨before, p, after, heq, -, hp⟩ := (hfirst err).mp herr
      exact ⟨by simp [heq], p, by simp [heq], err, hp⟩
    · rintro ⟨-, p, hp, err, herr⟩
      cases hfilter : e.filter attributes request s with
      | mk result s' =>
          cases result with
          | error err' => exact ⟨err', rfl⟩
          | ok m =>
              obtain ⟨answer, hanswer⟩ := answered_of_filter hbuilt hfilter p hp
              rw [herr] at hanswer
              cases hanswer
  · intro c hc facts id v s
    exact ⟨⟨_, hc.evaluate_eq_holds facts rfl s⟩, ⟨_, hc.evaluate_eq_holds facts rfl s⟩⟩

/-! ## Faults that are not met -/

/-- The part on scopes has its turn, since the one before it holds. -/
def unscoped : Criterion Unit :=
  .not (.all [.not (.any []), .scope none (.exact "example.org" true), .always])

/-- The first requirement has a part with a fault that is never asked.  The second one asks such a
part, and the third one would too. -/
def careless : ReleaseEngine Unit where
  id := "release"
  policies := [
    { id := "everybody", requirement := .any [.always, .value none (.exact "staff" true)],
      rules := [{ target := "role", permit := some (.value none (.exact "staff" true)) }] },
    { id := "scoped", requirement := unscoped, rules := [] },
    { id := "others", requirement := .value none (.exact "guest" true), rules := [] }]

theorem unscoped_builtIn : unscoped.BuiltIn := by
  refine .not (.all fun c hc => ?_)
  fin_cases hc
  · exact .not (.any fun c hc => absurd hc List.not_mem_nil)
  · exact .scope none _
  · exact .always

theorem careless_builtIn : ∀ p ∈ careless.policies, p.BuiltIn := by
  intro p hp
  fin_cases hp
  · refine ⟨.any fun c hc => ?_, fun r hr => ?_⟩
    · fin_cases hc
      · exact .always
      · exact .value none _
    · rw [List.mem_singleton.mp hr]
      constructor <;> rintro c ⟨⟩
      exact .value none _
  · exact ⟨unscoped_builtIn, fun r hr => absurd hr List.not_mem_nil⟩
  · exact ⟨.value none _, fun r hr => absurd hr List.not_mem_nil⟩

theorem filter_fails_iff_careless :
    (∀ p ∈ careless.policies, p.BuiltIn) ∧
    (careless.filter roles .empty ()).1 = .error .scopeWithoutAttribute ∧
    ∃ part, unscoped.Asks ⟨roles, .empty⟩ () part ∧ part.Nameless .scopeWithoutAttribute := by
  obtain ⟨-, hfirst, -, hasks⟩ := filter_fails_iff careless_builtIn roles .empty ()
  refine ⟨careless_builtIn, ?_, (hasks unscoped unscoped_builtIn _ () _).mp rfl⟩
  refine (hfirst _).mpr ⟨[_], _, [_], rfl, ?_, rfl⟩
  intro q hq
  rw [List.mem_singleton.mp hq]
  exact ⟨true, rfl⟩

end ReleaseEngine

end AttributeRelease
