import AttributeRelease.Proofs.Release.Outcome

/-!
# Criteria that name no attribute

A criterion that names no attribute looks at the request and at the value in question, and at
nothing else that was resolved.  So an engine of such criteria releases the same of an attribute,
whatever other attributes there are.
-/

namespace AttributeRelease

variable {σ : Type}

/-- Requests in which criteria see the same, if they may concern other attributes. -/
structure Facts.SameRequest (facts facts' : Facts) : Prop where
  field : ∀ field : RequestField, field.read facts'.request = field.read facts.request
  metadata : ∀ party : Party, party.metadata? facts'.request = party.metadata? facts.request

namespace Criterion

/-- A built-in criterion no part of which names an attribute. -/
inductive Unnamed : Criterion σ → Prop
  | always : Unnamed .always
  | all {members : List (Criterion σ)} (members_unnamed : ∀ c ∈ members, Unnamed c) :
      Unnamed (.all members)
  | any {members : List (Criterion σ)} (members_unnamed : ∀ c ∈ members, Unnamed c) :
      Unnamed (.any members)
  | not {c : Criterion σ} (unnamed : Unnamed c) : Unnamed (.not c)
  | request (field : RequestField) (matcher : Matcher) : Unnamed (.request field matcher)
  | value (matcher : Matcher) : Unnamed (.value none matcher)
  | scope (matcher : Matcher) : Unnamed (.scope none matcher)
  | entity (party : Party) (name : String) (format : Option String) (matcher : Matcher) :
      Unnamed (.entity party name format matcher)

theorem Unnamed.builtIn {c : Criterion σ} (h : c.Unnamed) : c.BuiltIn := by
  induction h with
  | always => exact .always
  | all _ ih => exact .all ih
  | any _ ih => exact .any ih
  | not _ ih => exact .not ih
  | request field matcher => exact .request field matcher
  | value matcher => exact .value none matcher
  | scope matcher => exact .scope none matcher
  | entity party name format matcher => exact .entity party name format matcher

/-! ## Members

Built-in members that answer alike answer alike together. -/

variable {facts facts' : Facts} {q : Question} {s s' : σ}

/-- Built-in criteria leave the world alone, so an answer that is the same comes with either. -/
theorem BuiltIn.exists_answers {c : Criterion σ} (builtIn : c.BuiltIn)
    (h : (c.evaluate facts' q s').1 = (c.evaluate facts q s).1) :
    ∃ result, c.evaluate facts q s = (result, s) ∧ c.evaluate facts' q s' = (result, s') :=
  ⟨_, Prod.ext rfl (builtIn.evaluate_snd facts q s),
    Prod.ext h (builtIn.evaluate_snd facts' q s')⟩

theorem evaluateAll_congr {members : List (Criterion σ)} (builtIn : ∀ c ∈ members, c.BuiltIn)
    (h : ∀ c ∈ members, (c.evaluate facts' q s').1 = (c.evaluate facts q s).1) :
    (evaluateAll facts' q members s').1 = (evaluateAll facts q members s).1 := by
  induction members with
  | nil => rfl
  | cons c rest ih =>
      have hrest := ih (fun d hd => builtIn d (List.mem_cons_of_mem c hd))
        fun d hd => h d (List.mem_cons_of_mem c hd)
      obtain ⟨result, hanswer, hanswer'⟩ :=
        (builtIn c List.mem_cons_self).exists_answers (h c List.mem_cons_self)
      rw [evaluateAll, evaluateAll, hanswer, hanswer']
      rcases result with _ | _ | _
      · rfl
      · rfl
      · exact hrest

theorem evaluateAny_congr {members : List (Criterion σ)} (builtIn : ∀ c ∈ members, c.BuiltIn)
    (h : ∀ c ∈ members, (c.evaluate facts' q s').1 = (c.evaluate facts q s).1) :
    (evaluateAny facts' q members s').1 = (evaluateAny facts q members s).1 := by
  induction members with
  | nil => rfl
  | cons c rest ih =>
      have hrest := ih (fun d hd => builtIn d (List.mem_cons_of_mem c hd))
        fun d hd => h d (List.mem_cons_of_mem c hd)
      obtain ⟨result, hanswer, hanswer'⟩ :=
        (builtIn c List.mem_cons_self).exists_answers (h c List.mem_cons_self)
      rw [evaluateAny, evaluateAny, hanswer, hanswer']
      rcases result with _ | _ | _
      · rfl
      · exact hrest
      · rfl

theorem negate_congr {answer answer' : Answer σ} (h : answer'.1 = answer.1) :
    (negate answer').1 = (negate answer).1 := by
  obtain ⟨result, s⟩ := answer
  obtain ⟨result', s'⟩ := answer'
  change result' = result at h
  subst h
  cases result' <;> rfl

/-- What a criterion that names no attribute answers does not depend on the attributes that were
resolved, nor on the world. -/
theorem Unnamed.evaluate_congr {c : Criterion σ} (h : c.Unnamed)
    (hsame : facts.SameRequest facts') :
    (c.evaluate facts' q s').1 = (c.evaluate facts q s).1 := by
  induction h with
  | always => rfl
  | @all members unnamed ih =>
      cases members with
      | nil => rfl
      | cons c rest => exact evaluateAll_congr (fun d hd => (unnamed d hd).builtIn) ih
  | any unnamed ih => exact evaluateAny_congr (fun d hd => (unnamed d hd).builtIn) ih
  | not _ ih => exact negate_congr ih
  | request field matcher => simp only [evaluate, hsame.field field]
  | value matcher => cases q <;> rfl
  | scope matcher => cases q <;> rfl
  | entity party name format matcher => simp only [evaluate, entityHolds, hsame.metadata party]

theorem Unnamed.holds_congr {c : Criterion σ} (h : c.Unnamed) (hsame : facts.SameRequest facts') :
    c.holds facts' q s' = c.holds facts q s := by
  rw [holds, holds, h.evaluate_congr hsame]

end Criterion

/-! ## Policies -/

/-- A rule of criteria that name no attribute. -/
structure AttributeRule.Unnamed (r : AttributeRule σ) : Prop where
  permit : ∀ c ∈ r.permit, c.Unnamed
  deny : ∀ c ∈ r.deny, c.Unnamed

/-- A policy of criteria that name no attribute. -/
structure Policy.Unnamed (p : Policy σ) : Prop where
  requirement : p.requirement.Unnamed
  rules : ∀ r ∈ p.rules, r.Unnamed

theorem AttributeRule.Unnamed.builtIn {r : AttributeRule σ} (h : r.Unnamed) : r.BuiltIn where
  permit c hc := (h.permit c hc).builtIn
  deny c hc := (h.deny c hc).builtIn

theorem Policy.Unnamed.builtIn {p : Policy σ} (h : p.Unnamed) : p.BuiltIn where
  requirement := h.requirement.builtIn
  rules r hr := (h.rules r hr).builtIn

section Congruence

variable {facts facts' : Facts} {s s' : σ} {policies : List (Policy σ)}

theorem AttributeRule.Unnamed.withholds_congr {r : AttributeRule σ} (h : r.Unnamed)
    (hsame : facts.SameRequest facts') (v : Value) :
    r.withholds facts' s' v = r.withholds facts s v := by
  rw [withholds, withholds]
  cases hdeny : r.deny with
  | none => rfl
  | some c =>
      rw [Option.any_some, Option.any_some]
      exact (h.deny c hdeny).holds_congr hsame

theorem AttributeRule.Unnamed.permitted_congr {r : AttributeRule σ} (h : r.Unnamed)
    (hsame : facts.SameRequest facts')
    (hattribute : facts'.attributes.get? r.target = facts.attributes.get? r.target) :
    r.permitted facts' s' = r.permitted facts s := by
  rw [permitted, permitted, Facts.valuesOf, Facts.valuesOf, hattribute]
  cases hpermit : r.permit with
  | none => rfl
  | some c =>
      have hholds : ∀ v, c.holds facts' (.permits r.target v) s' =
          c.holds facts (.permits r.target v) s := fun v =>
        (h.permit c hpermit).holds_congr hsame
      simp only [hholds]

theorem Policy.rulesInForce_congr (h : ∀ p ∈ policies, p.Unnamed)
    (hsame : facts.SameRequest facts') :
    Policy.rulesInForce policies facts' s' = Policy.rulesInForce policies facts s := by
  have happlies : ∀ p ∈ policies, p.applies facts' s' = p.applies facts s := fun p hp =>
    (h p hp).requirement.holds_congr hsame
  rw [rulesInForce, rulesInForce, List.filter_congr happlies]

/-- Policies that name no attribute release the same of an attribute that is the same. -/
theorem Policy.releasable_congr (h : ∀ p ∈ policies, p.Unnamed)
    (hsame : facts.SameRequest facts') {id : String}
    (hattribute : facts'.attributes.get? id = facts.attributes.get? id) :
    Policy.releasable policies facts' s' id = Policy.releasable policies facts s id := by
  have hrules : ∀ r ∈ AttributeRule.rulesFor id (Policy.rulesInForce policies facts s),
      r.Unnamed ∧ r.target = id := by
    intro r hr
    obtain ⟨hforce, htarget⟩ := AttributeRule.mem_rulesFor.mp hr
    obtain ⟨p, hp, -, hrule⟩ := Policy.mem_rulesInForce.mp hforce
    exact ⟨(h p hp).rules r hrule, htarget⟩
  have hpermitted : ∀ r ∈ AttributeRule.rulesFor id (Policy.rulesInForce policies facts s),
      r.permitted facts' s' = r.permitted facts s := by
    intro r hr
    obtain ⟨hunnamed, htarget⟩ := hrules r hr
    exact hunnamed.permitted_congr hsame (htarget ▸ hattribute)
  have hwithholds : ∀ v, (AttributeRule.rulesFor id (Policy.rulesInForce policies facts s)).any
      (·.withholds facts' s' v) = (AttributeRule.rulesFor id
        (Policy.rulesInForce policies facts s)).any (·.withholds facts s v) := by
    intro v
    rw [Bool.eq_iff_iff, List.any_eq_true, List.any_eq_true]
    exact exists_congr fun r => and_congr_right fun hr => by
      rw [(hrules r hr).1.withholds_congr hsame]
  have hflat := congrArg keepFirst (List.flatMap_congr hpermitted)
  simp only [releasable, Policy.rulesInForce_congr (s := s) h hsame, hflat, hwithholds]

/-- Of an attribute that was not resolved, nothing is released. -/
theorem Policy.releasable_of_unresolved (policies : List (Policy σ)) {id : String} (s : σ)
    (hnone : facts.attributes.get? id = none) : Policy.releasable policies facts s id = [] := by
  have hempty : (AttributeRule.rulesFor id (Policy.rulesInForce policies facts s)).flatMap
      (·.permitted facts s) = [] := by
    rw [List.flatMap_eq_nil_iff]
    intro r hr
    have htarget := (AttributeRule.mem_rulesFor.mp hr).2
    exact AttributeRule.permitted_of_unresolved (htarget ▸ hnone) s
  rw [releasable]
  simp only [hempty]
  rfl

end Congruence

namespace ReleaseEngine

open Selection (Answered outcome?)

variable {e : ReleaseEngine σ} {attributes attributes' : AttributeMap} {request request' : Request}

theorem get?_of_filter (hbuilt : ∀ p ∈ e.policies, p.BuiltIn) {m : AttributeMap} {s s' : σ}
    (h : e.filter attributes request s = (.ok m, s')) (id : String) :
    m.get? id = outcome? e.policies ⟨attributes, request⟩ s id := by
  obtain ⟨m₀, hm₀, -, houtcome⟩ := filter_of_answered hbuilt (answered_of_filter hbuilt h)
  rw [h] at hm₀
  cases hm₀
  exact houtcome id

/-- Where an engine of criteria that name no attribute releases something of some attributes, it
releases the same of fewer, as far as they are there. -/
theorem filter_restrict (hunnamed : ∀ p ∈ e.policies, p.Unnamed)
    (hsame : Facts.SameRequest ⟨attributes, request⟩ ⟨attributes', request'⟩) {ids : List String}
    (hattributes : ∀ id, attributes'.get? id = if id ∈ ids then attributes.get? id else none)
    {m : AttributeMap} {s : σ} (h : (e.filter attributes request s).1 = .ok m) (s' : σ) :
    ∃ m', e.filter attributes' request' s' = (.ok m', s') ∧ m'.ids.Nodup ∧
      ∀ id, m'.get? id = if id ∈ ids then m.get? id else none := by
  have hbuilt : ∀ p ∈ e.policies, p.BuiltIn := fun p hp => (hunnamed p hp).builtIn
  rcases hfilter : e.filter attributes request s with ⟨result, t⟩
  rw [hfilter] at h
  change result = _ at h
  subst h
  have hanswered : Answered e.policies ⟨attributes', request'⟩ s' := by
    intro p hp
    obtain ⟨answer, hanswer⟩ := answered_of_filter hbuilt hfilter p hp
    exact ⟨answer, ((hunnamed p hp).requirement.evaluate_congr hsame).trans hanswer⟩
  obtain ⟨m', hm', hnodup, houtcome⟩ := filter_of_answered hbuilt hanswered
  refine ⟨m', hm', hnodup, fun id => ?_⟩
  rw [houtcome, outcome?]
  by_cases hid : id ∈ ids
  · have hattribute := hattributes id
    rw [if_pos hid] at hattribute
    rw [if_pos hid, get?_of_filter hbuilt hfilter, outcome?,
      Policy.releasable_congr hunnamed hsame (s := s) hattribute]
    simp only [hattribute]
  · have hnone := hattributes id
    rw [if_neg hid] at hnone
    rw [if_neg hid, Policy.releasable_of_unresolved _ _ hnone]
    rfl

end ReleaseEngine

end AttributeRelease
