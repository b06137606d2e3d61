import AttributeRelease.Proofs.Release.Outcome

/-!
# Permits that are not asked

The engine does not ask a permit that is known to permit everything.  Where such permits are
built-in, it answers like an engine that asks every permit about every value: with the same
attributes, the same values in the same order, or the same fault.
-/

namespace AttributeRelease

variable {σ : Type}

/-- A way to find the values of an attribute that a criterion permits. -/
abbrev Permission (σ : Type) :=
  Facts → Criterion σ → String → List Value → σ → Except CriterionError (List Value) × σ

namespace Selection

/-! ## Engines with another way to permit -/

/-- Applies a rule, whose permit is used as `permission` says. -/
def applyRuleBy (permission : Permission σ) (sel : Selection σ) (r : AttributeRule σ) (s : σ) :
    Except CriterionError (Selection σ) × σ :=
  match sel.facts.attributes.get? r.target with
  | none => (.ok sel, s)
  | some a =>
    let withDeny (sel : Selection σ) : Selection σ :=
      match r.deny with
      | none => sel
      | some c => sel.deny r.target c
    match r.permit with
    | none => (.ok (withDeny sel), s)
    | some c =>
      match permission sel.facts c r.target a.values s with
      | (.error e, s) => (.error e, s)
      | (.ok values, s) => (.ok (withDeny (sel.retain r.target values)), s)

def applyRulesBy (permission : Permission σ) (sel : Selection σ) : List (AttributeRule σ) → σ →
    Except CriterionError (Selection σ) × σ
  | [], s => (.ok sel, s)
  | r :: rest, s =>
    match sel.applyRuleBy permission r s with
    | (.error e, s) => (.error e, s)
    | (.ok sel, s) => sel.applyRulesBy permission rest s

def applyPoliciesBy (permission : Permission σ) (sel : Selection σ) : List (Policy σ) → σ →
    Except CriterionError (Selection σ) × σ
  | [], s => (.ok sel, s)
  | p :: rest, s =>
    match p.requirement.evaluate sel.facts .applies s with
    | (.error e, s) => (.error e, s)
    | (.ok false, s) => sel.applyPoliciesBy permission rest s
    | (.ok true, s) =>
      match sel.applyRulesBy permission p.rules s with
      | (.error e, s) => (.error e, s)
      | (.ok sel, s) => sel.applyPoliciesBy permission rest s

/-- Asks a criterion about every value. -/
def askEach : Permission σ := fun facts c id values s => passing c facts (.permits id) values s

end Selection

/-- The attributes that are released, where permits are used as `permission` says. -/
def ReleaseEngine.filterBy (permission : Permission σ) (e : ReleaseEngine σ)
    (attributes : AttributeMap) (request : Request) (s : σ) :
    Except CriterionError AttributeMap × σ :=
  match e.policies with
  | [] => (.ok [], s)
  | policies =>
    match (Selection.start ⟨attributes, request⟩).applyPoliciesBy permission policies s with
    | (.error e, s) => (.error e, s)
    | (.ok sel, s) => sel.release sel.retained s

namespace Selection

theorem applyRulesBy_permitted (sel : Selection σ) (rules : List (AttributeRule σ)) (s : σ) :
    sel.applyRulesBy permitted rules s = sel.applyRules rules s := by
  induction rules generalizing sel s with
  | nil => rfl
  | cons r rest ih =>
      have hrule : sel.applyRuleBy permitted r s = sel.applyRule r s := rfl
      rw [applyRulesBy, applyRules, hrule]
      rcases sel.applyRule r s with ⟨_ | next, s'⟩
      · rfl
      · exact ih next s'

theorem applyPoliciesBy_permitted (sel : Selection σ) (policies : List (Policy σ)) (s : σ) :
    sel.applyPoliciesBy permitted policies s = sel.applyPolicies policies s := by
  induction policies generalizing sel s with
  | nil => rfl
  | cons p rest ih =>
      rw [applyPoliciesBy, applyPolicies]
      rcases p.requirement.evaluate sel.facts .applies s with ⟨_ | _ | _, s'⟩
      · rfl
      · exact ih sel s'
      · simp only [applyRulesBy_permitted]
        rcases sel.applyRules p.rules s' with ⟨_ | next, s''⟩
        · rfl
        · exact ih next s''

/-! ## Ways to permit that agree -/

/-- Two ways to permit find the same for the permit of a rule. -/
def AgreeOn (permission other : Permission σ) (r : AttributeRule σ) : Prop :=
  ∀ c ∈ r.permit, ∀ facts id values s, permission facts c id values s = other facts c id values s

theorem applyRuleBy_congr {permission other : Permission σ} {r : AttributeRule σ}
    (h : AgreeOn permission other r) (sel : Selection σ) (s : σ) :
    sel.applyRuleBy permission r s = sel.applyRuleBy other r s := by
  rw [applyRuleBy, applyRuleBy]
  cases hpermit : r.permit with
  | none => rfl
  | some c => simp only [h c hpermit]

theorem applyRulesBy_congr {permission other : Permission σ} {rules : List (AttributeRule σ)}
    (h : ∀ r ∈ rules, AgreeOn permission other r) (sel : Selection σ) (s : σ) :
    sel.applyRulesBy permission rules s = sel.applyRulesBy other rules s := by
  induction rules generalizing sel s with
  | nil => rfl
  | cons r rest ih =>
      obtain ⟨hr, hrest⟩ := List.forall_mem_cons.mp h
      rw [applyRulesBy, applyRulesBy, applyRuleBy_congr hr]
      simp only [ih hrest]

theorem applyPoliciesBy_congr {permission other : Permission σ} {policies : List (Policy σ)}
    (h : ∀ p ∈ policies, ∀ r ∈ p.rules, AgreeOn permission other r) (sel : Selection σ) (s : σ) :
    sel.applyPoliciesBy permission policies s = sel.applyPoliciesBy other policies s := by
  induction policies generalizing sel s with
  | nil => rfl
  | cons p rest ih =>
      obtain ⟨hp, hrest⟩ := List.forall_mem_cons.mp h
      rw [applyPoliciesBy, applyPoliciesBy]
      simp only [applyRulesBy_congr hp, ih hrest]

end Selection

namespace Criterion

/-- Where a criterion is known to permit everything only if it is built-in, it may be asked as
well. -/
theorem permitted_eq_askEach {c : Criterion σ} (h : c.permitsAll = true → c.BuiltIn)
    (facts : Facts) (id : String) (values : List Value) (s : σ) :
    Selection.permitted facts c id values s = Selection.askEach facts c id values s := by
  by_cases hall : c.permitsAll = true
  · rw [Selection.permitted_eq_filter (h hall)]
    exact (Selection.passing_eq_filter (h hall) facts (fun _ => rfl) values s).symm
  · rw [Selection.permitted, if_neg hall, Selection.askEach]

end Criterion

namespace ReleaseEngine

/-- The engine itself asks no criterion that is known to permit everything. -/
theorem filterBy_permitted (e : ReleaseEngine σ) (attributes : AttributeMap) (request : Request)
    (s : σ) :
    e.filterBy Selection.permitted attributes request s = e.filter attributes request s := by
  obtain ⟨id, policies⟩ := e
  cases policies with
  | nil => rfl
  | cons p rest =>
      rcases h : (Selection.start ⟨attributes, request⟩).applyPolicies (p :: rest) s with ⟨_ | _, _⟩
      · simp only [filterBy, filter, Selection.applyPoliciesBy_permitted, h]
      · simp only [filterBy, filter, Selection.applyPoliciesBy_permitted, h]

theorem filterBy_congr {permission other : Permission σ} {e : ReleaseEngine σ}
    (h : ∀ p ∈ e.policies, ∀ r ∈ p.rules, Selection.AgreeOn permission other r)
    (attributes : AttributeMap) (request : Request) (s : σ) :
    e.filterBy permission attributes request s = e.filterBy other attributes request s := by
  obtain ⟨id, policies⟩ := e
  cases policies with
  | nil => rfl
  | cons p rest => simp only [filterBy, Selection.applyPoliciesBy_congr h]

/-- A built-in criterion that is known to permit everything holds of every value, when it permits
and when it withholds.  So an engine that asks none of these releases what the engine releases that
asks every permit about every value, and fails where that one does.  Requirements, criteria that
withhold, and permits that are asked need not be built-in for that. -/
theorem filter_eq_filterBy_askEach :
    (∀ c : Criterion σ, c.BuiltIn → c.permitsAll = true → ∀ facts id v s,
      c.evaluate facts (.permits id v) s = (.ok true, s) ∧
        c.evaluate facts (.denies id v) s = (.ok true, s)) ∧
    ∀ e : ReleaseEngine σ,
      (∀ p ∈ e.policies, ∀ r ∈ p.rules, ∀ c ∈ r.permit, c.permitsAll = true → c.BuiltIn) →
      ∀ attributes request s,
        e.filter attributes request s = e.filterBy Selection.askEach attributes request s := by
  refine ⟨fun c hbuilt hall facts id v s => ⟨?_, ?_⟩, fun e hpermits attributes request s => ?_⟩
  · exact Prod.ext (hbuilt.evaluate_of_permitsAll hall facts rfl s) (hbuilt.evaluate_snd facts _ s)
  · exact Prod.ext (hbuilt.evaluate_of_permitsAll hall facts rfl s) (hbuilt.evaluate_snd facts _ s)
  · rw [← filterBy_permitted]
    refine filterBy_congr (fun p hp r hr c hc => ?_) attributes request s
    exact Criterion.permitted_eq_askEach (hpermits p hp r hr c hc)

/-! ## A permit with a negation beside it -/

/-- Permits everything, though its first member never holds. -/
def unlessAlways : Criterion Unit :=
  .any [.not .always, .any [.scope none (.exact "" true), .always]]

/-- Everybody gets the roles, except those that no guest has. -/
def generous : ReleaseEngine Unit where
  id := "release"
  policies := [
    { id := "everybody", requirement := .not (.any []),
      rules := [
        { target := "role", permit := some unlessAlways,
          deny := some (.not (.value none (.exact "guest" true))) }] }]

theorem unlessAlways_builtIn : unlessAlways.BuiltIn := by
  refine .any (List.forall_mem_cons.mpr ⟨.not .always, List.forall_mem_singleton.mpr (.any ?_)⟩)
  exact List.forall_mem_cons.mpr ⟨.scope none _, List.forall_mem_singleton.mpr .always⟩

theorem filter_eq_filterBy_askEach_generous :
    unlessAlways.BuiltIn ∧ unlessAlways.permitsAll = true ∧
    unlessAlways.evaluate ⟨roles, .empty⟩ (.denies "role" (.string "guest")) () = (.ok true, ()) ∧
    (∀ p ∈ generous.policies, ∀ r ∈ p.rules, ∀ c ∈ r.permit,
      c.permitsAll = true → c.BuiltIn) ∧
    generous.filterBy Selection.askEach roles .empty () =
      (.ok [("role", { id := "role", values := [.string "guest"] })], ()) := by
  have hpermits : ∀ p ∈ generous.policies, ∀ r ∈ p.rules, ∀ c ∈ r.permit,
      c.permitsAll = true → c.BuiltIn := by
    intro p hp r hr c hc _
    fin_cases hp
    fin_cases hr
    cases hc
    exact unlessAlways_builtIn
  obtain ⟨hholds, hfilter⟩ := filter_eq_filterBy_askEach (σ := Unit)
  refine ⟨unlessAlways_builtIn, rfl, ?_, hpermits, ?_⟩
  · exact (hholds unlessAlways unlessAlways_builtIn rfl ⟨roles, .empty⟩ "role"
      (.string "guest") ()).2
  · rw [← hfilter generous hpermits]
    rfl

end ReleaseEngine

end AttributeRelease
