import AttributeRelease.Proofs.Release.Selection
import Mathlib.Data.List.Forall2
import Mathlib.Tactic.ByContra

/-!
# What policies select

Among the rules of all policies that apply, those for an attribute decide what is released of it:
every value that one of them permits and none of them withholds.  Policies can be put in another
order, and so can the rules in them, without any change to the values that are released.
-/

namespace AttributeRelease

variable {σ : Type}

/-- Whether a policy applies. -/
def Policy.applies (p : Policy σ) (facts : Facts) (s : σ) : Bool :=
  p.requirement.holds facts .applies s

/-- The rules of the policies that apply, in order. -/
def Policy.rulesInForce (policies : List (Policy σ)) (facts : Facts) (s : σ) :
    List (AttributeRule σ) :=
  (policies.filter fun p => p.applies facts s).flatMap (·.rules)

/-- The values of an attribute that policies release: those that a rule in force permits, each
where it comes first, without those that a rule in force withholds. -/
def Policy.releasable (policies : List (Policy σ)) (facts : Facts) (s : σ) (id : String) :
    List Value :=
  let rules := AttributeRule.rulesFor id (Policy.rulesInForce policies facts s)
  (keepFirst (rules.flatMap (·.permitted facts s))).filter fun v =>
    !rules.any (·.withholds facts s v)

/-- The same policies, up to their order and the order of the rules in them. -/
def Policy.Reordered (policies others : List (Policy σ)) : Prop :=
  ∃ sorted, policies.Perm sorted ∧
    List.Forall₂ (fun p q => q.id = p.id ∧ q.requirement = p.requirement ∧ p.rules.Perm q.rules)
      sorted others

namespace Policy

theorem mem_rulesInForce {policies : List (Policy σ)} {facts : Facts} {s : σ}
    {r : AttributeRule σ} :
    r ∈ rulesInForce policies facts s ↔
      ∃ p ∈ policies, p.applies facts s = true ∧ r ∈ p.rules := by
  simp only [rulesInForce, List.mem_flatMap, List.mem_filter, and_assoc]

theorem rulesInForce_builtIn {policies : List (Policy σ)} (h : ∀ p ∈ policies, p.BuiltIn)
    (facts : Facts) (s : σ) : ∀ r ∈ rulesInForce policies facts s, r.BuiltIn := by
  intro r hr
  obtain ⟨p, hp, _, hrule⟩ := mem_rulesInForce.mp hr
  exact (h p hp).rules r hrule

theorem mem_releasable {policies : List (Policy σ)} {facts : Facts} {s : σ} {id : String}
    {v : Value} :
    v ∈ releasable policies facts s id ↔
      (∃ p ∈ policies, p.applies facts s = true ∧
        ∃ r ∈ p.rules, r.target = id ∧ v ∈ r.permitted facts s) ∧
      ¬ ∃ p ∈ policies, p.applies facts s = true ∧
        ∃ r ∈ p.rules, r.target = id ∧ r.withholds facts s v = true := by
  simp only [releasable, List.mem_filter, mem_keepFirst, List.mem_flatMap,
    AttributeRule.mem_rulesFor, mem_rulesInForce, Bool.not_eq_true', List.any_eq_false]
  constructor
  · rintro ⟨⟨r, ⟨⟨p, hp, happlies, hr⟩, hid⟩, hv⟩, hnone⟩
    refine ⟨⟨p, hp, happlies, r, hr, hid, hv⟩, ?_⟩
    rintro ⟨q, hq, hqapplies, r', hr', hid', hwithholds⟩
    exact hnone r' ⟨⟨q, hq, hqapplies, hr'⟩, hid'⟩ hwithholds
  · rintro ⟨⟨p, hp, happlies, r, hr, hid, hv⟩, hnone⟩
    refine ⟨⟨r, ⟨⟨p, hp, happlies, hr⟩, hid⟩, hv⟩, ?_⟩
    rintro r' ⟨⟨q, hq, hqapplies, hr'⟩, hid'⟩ hwithholds
    exact hnone ⟨q, hq, hqapplies, r', hr', hid', hwithholds⟩

/-! ## Reordering -/

/-- What is asked of the policies one by one has the same answer for reordered ones. -/
theorem Reordered.exists_iff {policies others : List (Policy σ)} (h : Reordered policies others)
    {P : Criterion σ → (AttributeRule σ → Prop) → Prop} :
    (∃ p ∈ policies, P p.requirement (· ∈ p.rules)) ↔
      ∃ q ∈ others, P q.requirement (· ∈ q.rules) := by
  obtain ⟨sorted, hperm, hrules⟩ := h
  have hsorted : (∃ p ∈ policies, P p.requirement (· ∈ p.rules)) ↔
      ∃ p ∈ sorted, P p.requirement (· ∈ p.rules) := by
    simp only [hperm.mem_iff]
  rw [hsorted]
  clear hperm hsorted
  induction hrules with
  | nil => simp
  | @cons p q sorted others hpq _ ih =>
      have hmem : (· ∈ p.rules) = (· ∈ q.rules) := funext fun r => propext hpq.2.2.mem_iff
      simp only [List.mem_cons, exists_eq_or_imp, ih, hpq.2.1, hmem]

/-- Reordered policies are made of the same criteria. -/
theorem Reordered.builtIn {policies others : List (Policy σ)} (h : Reordered policies others)
    (hbuilt : ∀ p ∈ policies, p.BuiltIn) : ∀ q ∈ others, q.BuiltIn := by
  intro q hq
  by_contra hnot
  obtain ⟨p, hp, hpnot⟩ := (h.exists_iff (P := fun requirement rules =>
    ¬ (requirement.BuiltIn ∧ ∀ r, rules r → r.BuiltIn))).mpr
      ⟨q, hq, fun hq => hnot ⟨hq.1, hq.2⟩⟩
  exact hpnot ⟨(hbuilt p hp).requirement, (hbuilt p hp).rules⟩

theorem Reordered.mem_releasable_iff {policies others : List (Policy σ)}
    (h : Reordered policies others) (facts : Facts) (s : σ) (id : String) (v : Value) :
    v ∈ releasable others facts s id ↔ v ∈ releasable policies facts s id := by
  rw [mem_releasable, mem_releasable]
  have permits := h.exists_iff (P := fun requirement rules =>
    requirement.holds facts .applies s = true ∧
      ∃ r, rules r ∧ r.target = id ∧ v ∈ r.permitted facts s)
  have withholds := h.exists_iff (P := fun requirement rules =>
    requirement.holds facts .applies s = true ∧
      ∃ r, rules r ∧ r.target = id ∧ r.withholds facts s v = true)
  exact and_congr permits.symm (not_congr withholds.symm)

end Policy

namespace Selection

/-! ## Policies -/

/-- Whether the requirements of policies can be evaluated. -/
def Answered (policies : List (Policy σ)) (facts : Facts) (s : σ) : Prop :=
  ∀ p ∈ policies, ∃ answer, (p.requirement.evaluate facts .applies s).1 = .ok answer

theorem Answered.reordered {policies others : List (Policy σ)} {facts : Facts} {s : σ}
    (h : Answered policies facts s) (hothers : Policy.Reordered policies others) :
    Answered others facts s := by
  intro q hq
  by_contra hnone
  obtain ⟨p, hp, hpnone⟩ := (hothers.exists_iff (P := fun requirement _ =>
    ¬ ∃ answer, (requirement.evaluate facts .applies s).1 = .ok answer)).mpr ⟨q, hq, hnone⟩
  exact hpnone (h p hp)

theorem applies_eq {p : Policy σ} (h : p.BuiltIn) {facts : Facts} {s : σ} {answer : Bool}
    (hanswer : (p.requirement.evaluate facts .applies s).1 = .ok answer) :
    p.requirement.evaluate facts .applies s = (.ok answer, s) ∧ p.applies facts s = answer := by
  refine ⟨Prod.ext hanswer (h.requirement.evaluate_snd facts .applies s), ?_⟩
  rw [Policy.applies, Criterion.holds, hanswer]

/-- Policies whose requirements can be evaluated are applied. -/
theorem applyPolicies_follows {policies : List (Policy σ)} (hbuilt : ∀ p ∈ policies, p.BuiltIn)
    {sel : Selection σ} {s : σ} (h : Answered policies sel.facts s) :
    ∃ next, sel.applyPolicies policies s = (.ok next, s) ∧
      sel.Follows next (Policy.rulesInForce policies sel.facts s) s := by
  induction policies generalizing sel with
  | nil => exact ⟨sel, rfl, .refl sel s⟩
  | cons p rest ih =>
      have hrest : ∀ q ∈ rest, q.BuiltIn := fun q hq => hbuilt q (List.mem_cons_of_mem p hq)
      obtain ⟨answer, hanswer⟩ := h p List.mem_cons_self
      obtain ⟨heval, happlies⟩ := applies_eq (hbuilt p List.mem_cons_self) hanswer
      rw [applyPolicies, heval]
      cases answer with
      | false =>
          have hanswered : Answered rest sel.facts s := fun q hq =>
            h q (List.mem_cons_of_mem p hq)
          obtain ⟨next, hnext, hfollows⟩ := ih hrest hanswered
          refine ⟨next, hnext, ?_⟩
          rw [Policy.rulesInForce, List.filter_cons_of_neg (by simp [happlies])]
          exact hfollows
      | true =>
          obtain ⟨mid, hmid, hrules⟩ :=
            applyRules_follows (hbuilt p List.mem_cons_self).rules sel s
          have hanswered : Answered rest mid.facts s := fun q hq => by
            rw [hrules.facts]
            exact h q (List.mem_cons_of_mem p hq)
          obtain ⟨next, hnext, hfollows⟩ := ih hrest hanswered
          refine ⟨next, ?_, ?_⟩
          · simp only [hmid]
            exact hnext
          · rw [hrules.facts] at hfollows
            rw [Policy.rulesInForce, List.filter_cons_of_pos (by exact happlies), List.flatMap_cons]
            exact hrules.trans hfollows

/-- Policies that are applied have requirements that can be evaluated. -/
theorem answered_of_applyPolicies {policies : List (Policy σ)}
    (hbuilt : ∀ p ∈ policies, p.BuiltIn) {sel next : Selection σ} {s s' : σ}
    (h : sel.applyPolicies policies s = (.ok next, s')) : Answered policies sel.facts s := by
  induction policies generalizing sel with
  | nil => exact fun p hp => absurd hp List.not_mem_nil
  | cons p rest ih =>
      have hrest : ∀ q ∈ rest, q.BuiltIn := fun q hq => hbuilt q (List.mem_cons_of_mem p hq)
      rw [applyPolicies] at h
      cases hanswer : (p.requirement.evaluate sel.facts .applies s).1 with
      | error e =>
          have heval : p.requirement.evaluate sel.facts .applies s = (.error e, s) :=
            Prod.ext hanswer ((hbuilt p List.mem_cons_self).requirement.evaluate_snd _ _ s)
          rw [heval] at h
          cases h
      | ok answer =>
          obtain ⟨heval, _⟩ := applies_eq (hbuilt p List.mem_cons_self) hanswer
          rw [heval] at h
          intro q hq
          rcases List.mem_cons.mp hq with rfl | hq
          · exact ⟨answer, hanswer⟩
          · cases answer with
            | false => exact ih hrest h q hq
            | true =>
                obtain ⟨mid, hmid, hrules⟩ :=
                  applyRules_follows (hbuilt p List.mem_cons_self).rules sel s
                simp only [hmid] at h
                have hq' := ih hrest h q hq
                rw [hrules.facts] at hq'
                exact hq'

end Selection

end AttributeRelease
