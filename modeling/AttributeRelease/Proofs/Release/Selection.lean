import AttributeRelease.Proofs.Release.BuiltIn
import AttributeRelease.Release.Engine

/-!
# What rules select

Rules of built-in criteria never fail, and what they select can be told without running them: the
permitted values of an attribute, each where it comes first, and the criteria that withhold values.
-/

namespace AttributeRelease

variable {σ : Type}

/-- The values of an attribute before filtering. -/
def Facts.valuesOf (facts : Facts) (id : String) : List Value :=
  ((facts.attributes.get? id).map (·.values)).getD []

/-- A rule of built-in criteria. -/
structure AttributeRule.BuiltIn (r : AttributeRule σ) : Prop where
  permit : ∀ c ∈ r.permit, c.BuiltIn
  deny : ∀ c ∈ r.deny, c.BuiltIn

/-- A policy of built-in criteria. -/
structure Policy.BuiltIn (p : Policy σ) : Prop where
  requirement : p.requirement.BuiltIn
  rules : ∀ r ∈ p.rules, r.BuiltIn

/-- The values that a rule permits, in their order. -/
def AttributeRule.permitted (r : AttributeRule σ) (facts : Facts) (s : σ) : List Value :=
  match r.permit with
  | none => []
  | some c => (facts.valuesOf r.target).filter fun v => c.holds facts (.permits r.target v) s

/-- Whether a rule withholds a value. -/
def AttributeRule.withholds (r : AttributeRule σ) (facts : Facts) (s : σ) (v : Value) : Bool :=
  r.deny.any fun c => c.holds facts (.denies r.target v) s

/-- The rules for an attribute. -/
def AttributeRule.rulesFor (id : String) (rules : List (AttributeRule σ)) :
    List (AttributeRule σ) :=
  rules.filter fun r => r.target == id

/-- Of an attribute that was not resolved, nothing is permitted. -/
theorem AttributeRule.permitted_of_unresolved {r : AttributeRule σ} {facts : Facts}
    (h : facts.attributes.get? r.target = none) (s : σ) : r.permitted facts s = [] := by
  rw [permitted]
  cases r.permit with
  | none => rfl
  | some c => simp [Facts.valuesOf, h]

theorem AttributeRule.mem_rulesFor {id : String} {rules : List (AttributeRule σ)}
    {r : AttributeRule σ} : r ∈ AttributeRule.rulesFor id rules ↔ r ∈ rules ∧ r.target = id := by
  rw [rulesFor, List.mem_filter, beq_iff_eq]

namespace Selection

/-! ## Values without repeats -/

theorem addNew_cons (old : List Value) (v : Value) (rest : List Value) :
    addNew old (v :: rest) = addNew (if v ∈ old then old else old ++ [v]) rest := by
  rw [addNew, List.foldl_cons, ← addNew]
  simp only [List.contains_iff_mem]

theorem addNew_append (old xs ys : List Value) :
    addNew (addNew old xs) ys = addNew old (xs ++ ys) := by
  rw [addNew, addNew, addNew, List.foldl_append]

/-- What is added is what is new, without repeats. -/
theorem addNew_eq (old new : List Value) :
    addNew old new = old ++ (keepFirst new).filter fun v => v ∉ old := by
  induction new generalizing old with
  | nil => simp [addNew, keepFirst]
  | cons v rest ih =>
      rw [addNew_cons, ih, keepFirst]
      by_cases h : v ∈ old
      · have hne : ∀ w, w ∉ old → w ≠ v := fun w hw heq => hw (heq ▸ h)
        simp only [h, if_true, List.filter_cons, not_true_eq_false, decide_false,
          List.filter_filter]
        congr 1
        apply List.filter_congr
        intro w _
        by_cases hw : w ∈ old
        · simp [hw]
        · simp [hw, hne w hw]
      · simp only [h, if_false, List.filter_cons, not_false_eq_true, decide_true, if_true,
          List.append_assoc, List.singleton_append, List.filter_filter]
        congr 2
        apply List.filter_congr
        intro w _
        by_cases hw : w = v <;> simp [hw]

/-- From nothing, every value stays where it comes first. -/
theorem addNew_nil (new : List Value) : addNew [] new = keepFirst new := by
  rw [addNew_eq]
  simp

/-! ## Entries -/

theorem values_put (sel : Selection σ) (id other : String) (values : List Value) :
    (sel.put id values).values other false =
      if id = other then values else sel.values other false := by
  by_cases h : id = other <;> simp [put, Selection.values, lookup_putEntry, h]

theorem values_retain (sel : Selection σ) (id other : String) (values : List Value) :
    (sel.retain id values).values other false =
      addNew (sel.values other false) (if id = other then values else []) := by
  rw [retain, values_put]
  by_cases h : id = other
  · subst h
    simp
  · simp [h, addNew]

theorem ids_putEntry (id : String) (values : List Value) (entries : List (String × List Value)) :
    (putEntry id values entries).map (·.1) =
      if id ∈ entries.map (·.1) then entries.map (·.1) else entries.map (·.1) ++ [id] := by
  induction entries with
  | nil => simp [putEntry]
  | cons entry rest ih =>
      obtain ⟨k, old⟩ := entry
      by_cases h : k = id
      · simp [putEntry, h]
      · rw [putEntry, if_neg h, List.map_cons, ih]
        by_cases hmem : id ∈ rest.map (·.1)
        · simp [hmem]
        · simp [hmem, Ne.symm h]

/-- No attribute has two entries. -/
theorem nodup_ids_retain {sel : Selection σ} (h : sel.ids.Nodup) (id : String)
    (values : List Value) : (sel.retain id values).ids.Nodup := by
  rw [ids, retain, put, ids_putEntry]
  split
  · exact h
  · next hmem =>
      refine List.nodup_append.mpr ⟨h, List.pairwise_singleton _ id, ?_⟩
      intro a ha b hb hab
      rw [List.mem_singleton] at hb
      exact hmem (hb ▸ hab ▸ ha)

/-! ## Rules -/

/-- The values for which a built-in criterion answers yes. -/
theorem passing_eq_filter {c : Criterion σ} (h : c.BuiltIn) (facts : Facts)
    {ask : Value → Question} (hask : ∀ v, (ask v).aboutValue = true) (values : List Value)
    (s : σ) :
    passing c facts ask values s =
      (.ok (values.filter fun v => c.holds facts (ask v) s), s) := by
  induction values with
  | nil => rfl
  | cons v rest ih =>
      rw [passing, h.evaluate_eq_holds facts (hask v) s]
      simp only [ih, List.filter_cons]

/-- One that is known to permit everything need not be asked. -/
theorem permitted_eq_filter {c : Criterion σ} (h : c.BuiltIn) (facts : Facts) (id : String)
    (values : List Value) (s : σ) :
    permitted facts c id values s =
      (.ok (values.filter fun v => c.holds facts (.permits id v) s), s) := by
  rw [permitted]
  split
  · next hall =>
      have hholds : ∀ v ∈ values, c.holds facts (.permits id v) s = true := fun v _ =>
        Criterion.holds_eq_true_iff.mpr (h.evaluate_of_permitsAll hall facts rfl s)
      rw [List.filter_eq_self.mpr hholds]
  · exact passing_eq_filter h facts (fun _ => rfl) values s

/-- What a selection says about the attributes that were resolved after some rules. -/
structure Follows (sel next : Selection σ) (rules : List (AttributeRule σ)) (s : σ) : Prop where
  facts : next.facts = sel.facts
  nodup : sel.ids.Nodup → next.ids.Nodup
  values : ∀ id, next.values id false =
    addNew (sel.values id false)
      ((AttributeRule.rulesFor id rules).flatMap (·.permitted sel.facts s))
  denials : ∀ id, (sel.facts.attributes.get? id).isSome →
    next.denialsOf id =
      sel.denialsOf id ++ (AttributeRule.rulesFor id rules).flatMap (·.deny.toList)

theorem Follows.refl (sel : Selection σ) (s : σ) : sel.Follows sel [] s where
  facts := rfl
  nodup h := h
  values id := by simp [AttributeRule.rulesFor, addNew]
  denials id _ := by simp [AttributeRule.rulesFor]

theorem Follows.trans {sel mid next : Selection σ} {first second : List (AttributeRule σ)} {s : σ}
    (h₁ : sel.Follows mid first s) (h₂ : mid.Follows next second s) :
    sel.Follows next (first ++ second) s where
  facts := h₂.facts.trans h₁.facts
  nodup h := h₂.nodup (h₁.nodup h)
  values id := by
    rw [h₂.values, h₁.values, h₁.facts, addNew_append, AttributeRule.rulesFor,
      AttributeRule.rulesFor, AttributeRule.rulesFor, List.filter_append, List.flatMap_append]
  denials id hid := by
    have hmid : (mid.facts.attributes.get? id).isSome := by rw [h₁.facts]; exact hid
    rw [h₂.denials id hmid, h₁.denials id hid, List.append_assoc, AttributeRule.rulesFor,
      AttributeRule.rulesFor, AttributeRule.rulesFor, List.filter_append, List.flatMap_append]

/-- The criterion of a rule stands behind the others, if it has one. -/
theorem follows_deny {sel : Selection σ} {r : AttributeRule σ} {s : σ} {next : Selection σ}
    (facts : next.facts = sel.facts) (nodup : sel.ids.Nodup → next.ids.Nodup)
    (values : ∀ id, next.values id false =
      addNew (sel.values id false) (if r.target = id then r.permitted sel.facts s else []))
    (denials : ∀ id, next.denialsOf id =
      sel.denialsOf id ++ if r.target = id then r.deny.toList else []) :
    sel.Follows next [r] s where
  facts := facts
  nodup := nodup
  values id := by
    rw [values]
    by_cases h : r.target = id <;> simp [AttributeRule.rulesFor, h]
  denials id _ := by
    rw [denials]
    by_cases h : r.target = id <;> simp [AttributeRule.rulesFor, h]

/-- A rule for an attribute that was not resolved selects nothing. -/
theorem follows_of_unresolved {sel : Selection σ} {r : AttributeRule σ} {s : σ}
    (h : sel.facts.attributes.get? r.target = none) : sel.Follows sel [r] s where
  facts := rfl
  nodup hsel := hsel
  values id := by
    have hnone : r.permitted sel.facts s = [] := AttributeRule.permitted_of_unresolved h s
    by_cases hid : r.target = id <;> simp [AttributeRule.rulesFor, hid, hnone, addNew]
  denials id hid := by
    have hne : r.target ≠ id := by
      intro heq
      rw [← heq, h] at hid
      cases hid
    simp [AttributeRule.rulesFor, hne]

theorem applyRule_follows (sel : Selection σ) {r : AttributeRule σ} (hr : r.BuiltIn) (s : σ) :
    ∃ next, sel.applyRule r s = (.ok next, s) ∧ sel.Follows next [r] s := by
  cases hattr : sel.facts.attributes.get? r.target with
  | none => exact ⟨sel, by rw [applyRule, hattr], follows_of_unresolved hattr⟩
  | some a =>
      have hvalues : sel.facts.valuesOf r.target = a.values := by simp [Facts.valuesOf, hattr]
      -- what the rule permits has been added before its criterion to withhold comes in
      have withDeny : ∀ mid : Selection σ, mid.facts = sel.facts →
          (sel.ids.Nodup → mid.ids.Nodup) →
          (∀ id, mid.values id false =
            addNew (sel.values id false) (if r.target = id then r.permitted sel.facts s else [])) →
          (∀ id, mid.denialsOf id = sel.denialsOf id) →
          sel.Follows (match r.deny with | none => mid | some c => mid.deny r.target c) [r] s := by
        intro mid facts nodup values denials
        cases hdeny : r.deny with
        | none =>
            refine follows_deny facts nodup values fun id => ?_
            rw [denials, hdeny]
            simp
        | some c =>
            refine follows_deny facts nodup values fun id => ?_
            rw [denialsOf_deny, denials, hdeny]
            rfl
      cases hpermit : r.permit with
      | none =>
          refine ⟨_, ?_, withDeny sel rfl id (fun id => ?_) fun _ => rfl⟩
          · cases hdeny : r.deny <;> simp only [applyRule, hattr, hpermit, hdeny]
          · simp [AttributeRule.permitted, hpermit, addNew]
      | some c =>
          let values := a.values.filter fun v => c.holds sel.facts (.permits r.target v) s
          refine ⟨_, ?_, withDeny (sel.retain r.target values) rfl
            (fun h => nodup_ids_retain h r.target values) (fun id => ?_) fun _ => rfl⟩
          · rw [applyRule, hattr, hpermit]
            simp only [permitted_eq_filter (hr.permit c hpermit)]
            rfl
          · rw [values_retain, AttributeRule.permitted, hpermit, hvalues]

/-- Rules of built-in criteria do not fail. -/
theorem applyRules_follows {rules : List (AttributeRule σ)} (h : ∀ r ∈ rules, r.BuiltIn)
    (sel : Selection σ) (s : σ) :
    ∃ next, sel.applyRules rules s = (.ok next, s) ∧ sel.Follows next rules s := by
  induction rules generalizing sel with
  | nil => exact ⟨sel, rfl, .refl sel s⟩
  | cons r rest ih =>
      obtain ⟨mid, hmid, hfirst⟩ := applyRule_follows sel (h r List.mem_cons_self) s
      obtain ⟨next, hnext, hrest⟩ := ih (fun r' hr' => h r' (List.mem_cons_of_mem r hr')) mid
      refine ⟨next, ?_, hfirst.trans hrest⟩
      rw [applyRules, hmid]
      exact hnext

end Selection

end AttributeRelease
