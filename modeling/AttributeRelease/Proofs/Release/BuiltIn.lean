import AttributeRelease.Release.Criterion

/-!
# Built-in criteria

A built-in criterion is one that no part of was supplied by the embedding program.  It leaves the
state alone, it fails only when it is asked about a policy, and one that is known to permit
everything does.
-/

namespace AttributeRelease

variable {σ : Type}

/-- Whether a question is about a value, and not about a policy. -/
def Question.aboutValue : Question → Bool
  | .applies => false
  | .permits _ _ | .denies _ _ => true

namespace Criterion

/-- A criterion no part of which the embedding program supplied. -/
inductive BuiltIn : Criterion σ → Prop
  | always : BuiltIn .always
  | all {members : List (Criterion σ)} (members_builtIn : ∀ c ∈ members, BuiltIn c) :
      BuiltIn (.all members)
  | any {members : List (Criterion σ)} (members_builtIn : ∀ c ∈ members, BuiltIn c) :
      BuiltIn (.any members)
  | not {c : Criterion σ} (builtIn : BuiltIn c) : BuiltIn (.not c)
  | request (field : RequestField) (matcher : Matcher) : BuiltIn (.request field matcher)
  | value (target : Option String) (matcher : Matcher) : BuiltIn (.value target matcher)
  | scope (target : Option String) (matcher : Matcher) : BuiltIn (.scope target matcher)
  | count (target : String) (least most : Nat) : BuiltIn (.count target least most)
  | entity (party : Party) (name : String) (format : Option String) (matcher : Matcher) :
      BuiltIn (.entity party name format matcher)

/-- Whether a criterion answers a question with yes. -/
def holds (facts : Facts) (q : Question) (c : Criterion σ) (s : σ) : Bool :=
  match (c.evaluate facts q s).1 with
  | .ok answer => answer
  | .error _ => false

theorem holds_eq_true_iff {facts : Facts} {q : Question} {c : Criterion σ} {s : σ} :
    c.holds facts q s = true ↔ (c.evaluate facts q s).1 = .ok true := by
  rw [holds]
  split <;> simp_all

/-! ## Members

Where no member changes the state, what holds of the answer of every member, and of the answer
without members, holds of the answer of all together. -/

theorem evaluateAll_induction {facts : Facts} {q : Question} {P : Answer σ → Prop} {s : σ}
    (nil : P (.ok true, s)) {members : List (Criterion σ)}
    (state : ∀ c ∈ members, (c.evaluate facts q s).2 = s)
    (member : ∀ c ∈ members, P (c.evaluate facts q s)) : P (evaluateAll facts q members s) := by
  induction members with
  | nil => exact nil
  | cons c rest ih =>
      have hrest := ih (fun d hd => state d (List.mem_cons_of_mem c hd))
        (fun d hd => member d (List.mem_cons_of_mem c hd))
      rw [evaluateAll]
      split
      · next s' heq =>
          have hs := state c List.mem_cons_self
          rw [heq] at hs
          change s' = s at hs
          rw [hs]
          exact hrest
      · exact member c List.mem_cons_self

theorem evaluateAny_induction {facts : Facts} {q : Question} {P : Answer σ → Prop} {s : σ}
    (nil : P (.ok false, s)) {members : List (Criterion σ)}
    (state : ∀ c ∈ members, (c.evaluate facts q s).2 = s)
    (member : ∀ c ∈ members, P (c.evaluate facts q s)) : P (evaluateAny facts q members s) := by
  induction members with
  | nil => exact nil
  | cons c rest ih =>
      have hrest := ih (fun d hd => state d (List.mem_cons_of_mem c hd))
        (fun d hd => member d (List.mem_cons_of_mem c hd))
      rw [evaluateAny]
      split
      · next s' heq =>
          have hs := state c List.mem_cons_self
          rw [heq] at hs
          change s' = s at hs
          rw [hs]
          exact hrest
      · exact member c List.mem_cons_self

/-! ## The state -/

theorem negate_snd (answer : Answer σ) : (negate answer).2 = answer.2 := by
  obtain ⟨result, s⟩ := answer
  cases result <;> rfl

/-- A built-in criterion leaves the state alone. -/
theorem BuiltIn.evaluate_snd {c : Criterion σ} (h : c.BuiltIn) (facts : Facts) (q : Question)
    (s : σ) : (c.evaluate facts q s).2 = s := by
  induction h with
  | @all members _ ih =>
      cases members with
      | nil => rfl
      | cons c rest => exact evaluateAll_induction (P := fun answer => answer.2 = s) rfl ih ih
  | any _ ih => exact evaluateAny_induction (P := fun answer => answer.2 = s) rfl ih ih
  | not _ ih => exact (negate_snd _).trans ih
  | _ => rfl

/-! ## Answers about values -/

theorem negate_answers {answer : Answer σ} (h : ∃ b, answer.1 = .ok b) :
    ∃ b, (negate answer).1 = .ok b := by
  obtain ⟨result, s⟩ := answer
  obtain ⟨b, rfl⟩ := h
  exact ⟨!b, rfl⟩

theorem testValues_answers (facts : Facts) (target : Option String) (missing : CriterionError)
    (test : Value → Bool) {q : Question} (hq : q.aboutValue = true) :
    ∃ answer, testValues facts target missing test q = .ok answer := by
  cases q with
  | applies => cases hq
  | permits id v => cases target <;> exact ⟨_, rfl⟩
  | denies id v => cases target <;> exact ⟨_, rfl⟩

/-- A built-in criterion has an answer to every question about a value. -/
theorem BuiltIn.answers {c : Criterion σ} (h : c.BuiltIn) (facts : Facts) {q : Question}
    (hq : q.aboutValue = true) (s : σ) : ∃ answer, (c.evaluate facts q s).1 = .ok answer := by
  induction h with
  | @all members builtIn ih =>
      have state : ∀ c ∈ members, (c.evaluate facts q s).2 = s := fun c hc =>
        (builtIn c hc).evaluate_snd facts q s
      cases members with
      | nil => exact ⟨false, rfl⟩
      | cons c rest =>
          exact evaluateAll_induction (P := fun answer => ∃ b, answer.1 = .ok b)
            ⟨true, rfl⟩ state ih
  | any builtIn ih =>
      exact evaluateAny_induction (P := fun answer => ∃ b, answer.1 = .ok b) ⟨false, rfl⟩
        (fun c hc => (builtIn c hc).evaluate_snd facts q s) ih
  | not _ ih => exact negate_answers ih
  | value target matcher => exact testValues_answers facts target _ _ hq
  | scope target matcher => exact testValues_answers facts target _ _ hq
  | always => exact ⟨true, rfl⟩
  | _ => exact ⟨_, rfl⟩

/-- What a built-in criterion answers about a value, as one equation. -/
theorem BuiltIn.evaluate_eq_holds {c : Criterion σ} (h : c.BuiltIn) (facts : Facts) {q : Question}
    (hq : q.aboutValue = true) (s : σ) :
    c.evaluate facts q s = (.ok (c.holds facts q s), s) := by
  obtain ⟨answer, hanswer⟩ := h.answers facts hq s
  have hs := h.evaluate_snd facts q s
  have hholds : c.holds facts q s = answer := by rw [holds, hanswer]
  rw [hholds]
  exact Prod.ext hanswer hs

/-! ## Criteria that permit everything -/

theorem exists_permitsAll {members : List (Criterion σ)} (h : somePermitsAll members = true) :
    ∃ c ∈ members, c.permitsAll = true := by
  induction members with
  | nil => cases h
  | cons c rest ih =>
      rw [somePermitsAll, Bool.or_eq_true] at h
      rcases h with hc | hrest
      · exact ⟨c, List.mem_cons_self, hc⟩
      · obtain ⟨d, hd, hpermits⟩ := ih hrest
        exact ⟨d, List.mem_cons_of_mem c hd, hpermits⟩

/-- A member that holds decides, since the members before it do not fail. -/
theorem evaluateAny_of_mem {facts : Facts} {q : Question} {s : σ} {members : List (Criterion σ)}
    (builtIn : ∀ c ∈ members, c.BuiltIn) (hq : q.aboutValue = true) {c : Criterion σ}
    (hc : c ∈ members) (holds : (c.evaluate facts q s).1 = .ok true) :
    (evaluateAny facts q members s).1 = .ok true := by
  induction members with
  | nil => cases hc
  | cons d rest ih =>
      have hd := (builtIn d List.mem_cons_self).evaluate_eq_holds facts hq s
      rw [evaluateAny, hd]
      cases hanswer : d.holds facts q s with
      | true => rfl
      | false =>
          have hne : c ≠ d := by
            intro hcd
            rw [hcd, hd, hanswer] at holds
            cases holds
          exact ih (fun e he => builtIn e (List.mem_cons_of_mem d he))
            ((List.mem_cons.mp hc).resolve_left hne)

/-- A built-in criterion that is known to permit everything holds of every value. -/
theorem BuiltIn.evaluate_of_permitsAll {c : Criterion σ} (h : c.BuiltIn)
    (hall : c.permitsAll = true) (facts : Facts) {q : Question} (hq : q.aboutValue = true)
    (s : σ) : (c.evaluate facts q s).1 = .ok true := by
  induction h with
  | always => rfl
  | any builtIn ih =>
      obtain ⟨c, hc, hpermits⟩ := exists_permitsAll hall
      exact evaluateAny_of_mem builtIn hq hc (ih c hc hpermits)
  | _ => cases hall

end Criterion

end AttributeRelease
