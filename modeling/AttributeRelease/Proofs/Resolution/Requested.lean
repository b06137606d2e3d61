import AttributeRelease.Proofs.Resolution.Sequence

/-!
# Requests for some of the attributes

Plugins that do not look at what is asked for come to the same results, whatever is.  So where all
definitions can be resolved, any of them can be asked for alone, and each has the attribute that it
has among all of them.
-/

namespace AttributeRelease

variable {σ α : Type}

/-- The request with other attributes asked for. -/
def Request.asking (request : Request) (ids : List String) : Request :=
  { request with requestedIds := ids }

/-- Plugins that do not look at which attributes are asked for. -/
structure Registry.IgnoresRequested (r : Registry σ) : Prop where
  connector : ∀ c ∈ r.connectors, ∀ (request : Request) (ids : List String) (m : Memo) (s : σ),
    (c.resolve (request.asking ids) m s).1 = (c.resolve request m s).1
  definition : ∀ d ∈ r.definitions, ∀ (request : Request) (ids : List String) (m : Memo) (s : σ),
    (d.resolve (request.asking ids) m s).1 = (d.resolve request m s).1

namespace Registry

variable {r : Registry σ} {request : Request}

theorem IgnoresRequested.work (h : r.IgnoresRequested) {t : Target} {w : Work σ}
    (hw : r.work? t = some w) (ids : List String) (m : Memo) (s : σ) :
    (w.resolve (request.asking ids) m s).1 = (w.resolve request m s).1 := by
  cases t with
  | connector id =>
      obtain ⟨c, hc, rfl⟩ := Option.map_eq_some_iff.mp hw
      exact congrArg (Except.map _) (h.connector c (List.mem_of_find?_eq_some hc) request ids m s)
  | definition id =>
      obtain ⟨d, hd, rfl⟩ := Option.map_eq_some_iff.mp hw
      exact congrArg (Except.map _) (h.definition d (List.mem_of_find?_eq_some hd) request ids m s)

theorem evaluate_asking (h : r.IgnoresRequested) (ids : List String) (s : σ) (room : Nat)
    (inProgress : List String) (t : Target) :
    r.evaluate (request.asking ids) s room inProgress t =
      r.evaluate request s room inProgress t := by
  induction room generalizing inProgress t with
  | zero => rfl
  | succ room ih =>
      have hstep : r.evaluate (request.asking ids) s room (t.id :: inProgress) =
          r.evaluate request s room (t.id :: inProgress) := funext fun u => ih _ u
      rw [evaluate, evaluate]
      cases hw : r.work? t with
      | none => rfl
      | some w => simp only [hstep, h.work hw ids]

/-- A definition has the same attribute, or the same fault, whatever is asked for. -/
theorem resolveDefinition_asking (hbuilt : r.Built) (hdet : r.Deterministic)
    (hignores : r.IgnoresRequested) (id : String) (ids : List String) (s s' : σ) :
    (r.resolveDefinition id (.start (request.asking ids)) s).1 =
      (r.resolveDefinition id (.start request) s').1 := by
  have hasking := resolveDefinition_eq hbuilt hdet (.start r (request.asking ids)) id s s
  have hplain := resolveDefinition_eq hbuilt hdet (.start r request) id s' s
  rw [evaluate_asking hignores] at hasking
  exact eq_of_map_eq (fun {a a'} h => by cases a <;> cases a' <;> cases h <;> rfl)
    (hasking.trans hplain.symm)

theorem resolveDefinition_absent {id : String} (h : id ∉ r.definitionIds) (request : Request)
    (s : σ) : (r.resolveDefinition id (.start request) s).1 = .ok none := by
  have hnone : r.definition? id = none := by
    rw [← Option.not_isSome_iff_eq_none, isSome_definition?]
    exact h
  rw [resolveDefinition, definitionWithin, definitionStep, hnone]
  rfl

/-! ## One step for every id -/

/-- A transparent step that answers every id by itself answers all of them. -/
theorem Transparent.each_eq {step : String → Resolution.Step σ α}
    (hstep : ∀ id, r.Transparent request (step id)) (s₀ : σ) {value : String → α}
    {ids : List String}
    (hvalue : ∀ id ∈ ids, (step id (.start request) s₀).1 = .ok (value id)) {x : Resolution}
    (s : σ) (hx : r.Settled request x) :
    (Resolution.each step ids x s).1 = .ok (ids.map fun id => (id, value id)) := by
  induction ids generalizing x s with
  | nil => rfl
  | cons id rest ih =>
      have hsame := (hstep id).same s s₀ hx (.start r request)
      have hsettled := (hstep id).settled s hx
      rw [hvalue id List.mem_cons_self] at hsame
      rcases hfirst : step id x s with ⟨result, y, t⟩
      rw [hfirst] at hsame hsettled
      change result = _ at hsame
      subst hsame
      have hrest :=
        ih (fun other hother => hvalue other (List.mem_cons_of_mem id hother)) t hsettled
      rcases hmore : Resolution.each step rest y t with ⟨more, z, u⟩
      rw [hmore] at hrest
      change more = _ at hrest
      subst hrest
      rw [Resolution.each]
      simp only [hfirst, hmore, List.map_cons]

/-- A transparent step that answers all ids answers every one of them by itself. -/
theorem Transparent.exists_of_each {step : String → Resolution.Step σ α}
    (hstep : ∀ id, r.Transparent request (step id)) (s₀ : σ) {ids : List String} {x : Resolution}
    {s : σ} {entries : List (String × α)} (hx : r.Settled request x)
    (h : (Resolution.each step ids x s).1 = .ok entries) :
    ∀ id ∈ ids, ∃ a, (step id (.start request) s₀).1 = .ok a := by
  induction ids generalizing x s entries with
  | nil => exact fun id hid => absurd hid List.not_mem_nil
  | cons first rest ih =>
      have hsame := (hstep first).same s s₀ hx (.start r request)
      have hsettled := (hstep first).settled s hx
      rw [Resolution.each] at h
      rcases hfirst : step first x s with ⟨_ | a, y, t⟩
      · simp only [hfirst] at h
        cases h
      · rw [hfirst] at hsame hsettled
        simp only [hfirst] at h
        rcases hmore : Resolution.each step rest y t with ⟨_ | more, z, u⟩
        · simp only [hmore] at h
          cases h
        · intro id hid
          rcases List.mem_cons.mp hid with rfl | hid
          · exact ⟨a, hsame.symm⟩
          · exact ih hsettled (by rw [hmore]) id hid

end Registry

namespace Resolver

variable {e : Resolver σ} {request : Request}

/-- What comes out of a resolution for the attribute of a definition. -/
def outcomeOf (e : Resolver σ) (id : String) (a : Option Attribute) : Option Attribute :=
  a.bind fun a => if e.isDependencyOnly id || a.isEmpty then none else some a.dedup

/-- Puts what comes out for a definition, if anything does. -/
def putOutcome (e : Resolver σ) (m : AttributeMap) (id : String) (a : Option Attribute) :
    AttributeMap :=
  ((e.outcomeOf id a).map (m.insert id)).getD m

theorem outcome_eq_foldl (e : Resolver σ) (resolved : List (String × Option Attribute)) :
    e.outcome resolved =
      resolved.foldl (fun m entry => e.putOutcome m entry.1 entry.2) ([] : AttributeMap) := by
  rw [outcome]
  congr 1
  funext m entry
  obtain ⟨id, a⟩ := entry
  cases a with
  | none => rfl
  | some a =>
      dsimp only
      rw [putOutcome, outcomeOf, Option.bind_some]
      split <;> rfl

theorem get?_putOutcome (e : Resolver σ) (m : AttributeMap) (first id : String)
    (a : Option Attribute) :
    (e.putOutcome m first a).get? id =
      if first = id then (e.outcomeOf first a).or (m.get? id) else m.get? id := by
  rw [putOutcome]
  cases e.outcomeOf first a with
  | none => simp
  | some b =>
      rw [Option.map_some, Option.getD_some, AttributeMap.get?_insert, Option.some_or]

/-- Behind the outcomes that were put before, those of definitions that may be the same ones. -/
theorem get?_foldl_putOutcome (e : Resolver σ) (value : String → Option Attribute)
    (ids : List String) (m : AttributeMap) (id : String) :
    (ids.foldl (fun m id => e.putOutcome m id (value id)) m).get? id =
      if id ∈ ids then (e.outcomeOf id (value id)).or (m.get? id) else m.get? id := by
  induction ids generalizing m with
  | nil => rfl
  | cons first rest ih =>
      rw [List.foldl_cons, ih, get?_putOutcome]
      by_cases hfirst : first = id
      · subst hfirst
        by_cases hrest : first ∈ rest
        · cases e.outcomeOf first (value first) <;> simp [hrest]
        · simp [hrest]
      · simp [hfirst, Ne.symm hfirst]

/-- Each definition comes out as it does alone, however often it was asked for. -/
theorem get?_outcome (e : Resolver σ) (value : String → Option Attribute) (ids : List String)
    (id : String) :
    (e.outcome (ids.map fun id => (id, value id))).get? id =
      if id ∈ ids then e.outcomeOf id (value id) else none := by
  rw [outcome_eq_foldl, List.foldl_map, get?_foldl_putOutcome]
  split
  · exact Option.or_none
  · rfl

/-! ## Some of the definitions -/

theorem resolve_of_each {x : Resolution} {s : σ} {resolved : List (String × Option Attribute)}
    (hsome : e.registry.definitions.isEmpty = false)
    (h : (Resolution.each e.registry.resolveDefinition (e.requested x.request) x s).1 =
      .ok resolved) : (e.resolveIn x s).1 = .ok (e.outcome resolved) := by
  rw [resolveIn, hsome]
  rcases heach : Resolution.each e.registry.resolveDefinition (e.requested x.request) x s with
    ⟨result, y, t⟩
  rw [heach] at h
  change result = _ at h
  subst h
  rfl

theorem exists_of_resolve {x : Resolution} {s : σ} {m : AttributeMap}
    (hsome : e.registry.definitions.isEmpty = false) (h : (e.resolveIn x s).1 = .ok m) :
    ∃ resolved,
      (Resolution.each e.registry.resolveDefinition (e.requested x.request) x s).1 =
        .ok resolved ∧ m = e.outcome resolved := by
  rw [resolveIn, hsome] at h
  rcases heach : Resolution.each e.registry.resolveDefinition (e.requested x.request) x s with
    ⟨_ | resolved, y, t⟩
  · simp only [heach] at h
    cases h
  · simp only [heach] at h
    cases h
    exact ⟨resolved, rfl, rfl⟩

/-- Where every definition has an attribute or none by itself, a request has the outcome of those
that it asks for. -/
theorem resolve_eq_outcome (hbuilt : e.registry.Built) (hdet : e.registry.Deterministic)
    (hignores : e.registry.IgnoresRequested)
    (hsome : e.registry.definitions.isEmpty = false) {s₀ : σ} {value : String → Option Attribute}
    (hvalue : ∀ id, (e.registry.resolveDefinition id (.start request) s₀).1 = .ok (value id))
    (ids : List String) (s : σ) :
    (e.resolve (request.asking ids) s).1 =
      .ok (e.outcome ((e.requested (request.asking ids)).map fun id => (id, value id))) := by
  have hstep : ∀ id,
      e.registry.Transparent (request.asking ids) (e.registry.resolveDefinition id) :=
    Registry.resolveDefinition_transparent hbuilt hdet
  have hasking : ∀ id ∈ e.requested (request.asking ids),
      (e.registry.resolveDefinition id (.start (request.asking ids)) s).1 = .ok (value id) :=
    fun id _ => (Registry.resolveDefinition_asking hbuilt hdet hignores id ids s s₀).trans
      (hvalue id)
  have heach := Registry.Transparent.each_eq hstep s hasking s (.start e.registry _)
  exact resolve_of_each (x := .start (request.asking ids)) hsome heach

/-- Where a request for all attributes is answered, so is one for some of them, with the attributes
of the first answer that it asks for. -/
theorem resolve_asking (hbuilt : e.registry.Built) (hdet : e.registry.Deterministic)
    (hignores : e.registry.IgnoresRequested) {ids : List String} (hids : ids ≠ []) {s : σ}
    {m : AttributeMap} (h : (e.resolve (request.asking []) s).1 = .ok m) (s' : σ) :
    ∃ m', (e.resolve (request.asking ids) s').1 = .ok m' ∧
      ∀ id, m'.get? id = if id ∈ ids then m.get? id else none := by
  have hall : e.requested (request.asking []) = e.registry.definitionIds := rfl
  have hasked : e.requested (request.asking ids) = ids := if_neg (by simpa [Request.asking])
  cases hsome : e.registry.definitions.isEmpty with
  | true =>
      have hnone : ∀ (x : Resolution) (s : σ), (e.resolveIn x s).1 = .ok [] := fun x s => by
        rw [resolveIn, hsome]
        rfl
      have hm := (hnone (.start (request.asking [])) s).symm.trans h
      cases hm
      exact ⟨[], hnone _ s', fun id => by split <;> rfl⟩
  | false =>
      have hstep : ∀ id,
          e.registry.Transparent (request.asking []) (e.registry.resolveDefinition id) :=
        Registry.resolveDefinition_transparent hbuilt hdet
      obtain ⟨resolved, heach, -⟩ := exists_of_resolve (x := .start (request.asking [])) hsome h
      have hdefined := Registry.Transparent.exists_of_each hstep s (.start e.registry _) heach
      have htotal : ∀ id, ∃ a, (e.registry.resolveDefinition id (.start request) s).1 = .ok a := by
        intro id
        by_cases hid : id ∈ e.registry.definitionIds
        · obtain ⟨a, ha⟩ := hdefined id hid
          exact ⟨a,
            (Registry.resolveDefinition_asking hbuilt hdet hignores id [] s s).symm.trans ha⟩
        · exact ⟨none, Registry.resolveDefinition_absent hid request s⟩
      choose value hvalue using htotal
      have hm := resolve_eq_outcome hbuilt hdet hignores hsome hvalue [] s
      rw [h, hall] at hm
      cases hm
      refine ⟨_, resolve_eq_outcome hbuilt hdet hignores hsome hvalue ids s', fun id => ?_⟩
      rw [hasked, get?_outcome, get?_outcome]
      by_cases hid : id ∈ e.registry.definitionIds
      · rw [if_pos hid]
      · have habsent : value id = none := Except.ok.inj
          ((hvalue id).symm.trans (Registry.resolveDefinition_absent hid request s))
        rw [if_neg hid, habsent]
        rfl

end Resolver

end AttributeRelease
