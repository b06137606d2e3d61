import AttributeRelease.Proofs.Resolution.Target

/-!
# What plugins yield

The result of a plugin follows from the results of what it depends on, whatever else was resolved
before it.  A plugin yields at most one result, and one that yields any does not need itself.
-/

namespace AttributeRelease

variable {σ : Type}

/-- Results that depend on the request and on the results of dependencies alone. -/
structure Registry.Deterministic (r : Registry σ) : Prop where
  connector : ∀ c ∈ r.connectors, ∀ (request : Request) (m m' : Memo) (s s' : σ),
    (∀ d ∈ c.dependencies, m.get? d = m'.get? d) →
      (c.resolve request m s).1 = (c.resolve request m' s').1
  definition : ∀ d ∈ r.definitions, ∀ (request : Request) (m m' : Memo) (s s' : σ),
    (∀ other ∈ d.dependencies, m.get? other = m'.get? other) →
      (d.resolve request m s).1 = (d.resolve request m' s').1

/-- A definition that derives its values reads nothing but the request and its dependencies. -/
theorem Definition.derived_resolve_eq (settings : DefinitionSettings)
    (check : Except ResolutionError Unit)
    (derive : Request → List Value → Except ResolutionError (List Value)) (request : Request)
    {m m' : Memo} (s s' : σ) (h : ∀ d ∈ settings.plugin.dependencies, m.get? d = m'.get? d) :
    ((derived settings check derive).resolve request m s).1 =
      ((derived settings check derive).resolve request m' s').1 := by
  have hvalues : m.dependencyValues settings.plugin.dependencies settings.sourceId =
      m'.dependencyValues settings.plugin.dependencies settings.sourceId := by
    rw [Memo.dependencyValues, Memo.dependencyValues]
    apply List.flatMap_congr
    intro d hd
    rw [Memo.contribution, Memo.contribution, h d hd]
  simp only [derived, hvalues]
  split <;> rfl

namespace Registry

/-- The results that plugins yield, each by itself or through its failover. -/
inductive Yields (r : Registry σ) (request : Request) : Target → Resolved → Prop
  | own {t : Target} {w : Work σ} {m : Memo} {s s' : σ} {a : Resolved}
      {value : String → Resolved} (work : r.work? t = some w)
      (dependencies : ∀ d ∈ w.dependencies, ∀ u, r.target? d = some u →
        Yields r request u (value d))
      (memo : ∀ d ∈ w.dependencies, m.get? d = (r.target? d).map fun _ => value d)
      (resolved : w.resolve request m s = (.ok a, s')) : Yields r request t a
  | replaced {t : Target} {w : Work σ} {m : Memo} {s s' : σ} {e : ResolutionError}
      {other : String} {a : Resolved} {value : String → Resolved} (work : r.work? t = some w)
      (dependencies : ∀ d ∈ w.dependencies, ∀ u, r.target? d = some u →
        Yields r request u (value d))
      (memo : ∀ d ∈ w.dependencies, m.get? d = (r.target? d).map fun _ => value d)
      (failed : w.resolve request m s = (.error e, s')) (other_eq : w.failover = some other)
      (instead : Yields r request (.connector other) a) : Yields r request t a

/-- A memo that supplies a plugin with what its dependencies yield. -/
structure Supplied (r : Registry σ) (request : Request) (w : Work σ) (m : Memo)
    (value : String → Resolved) : Prop where
  dependencies : ∀ d ∈ w.dependencies, ∀ u, r.target? d = some u → r.Yields request u (value d)
  memo : ∀ d ∈ w.dependencies, m.get? d = (r.target? d).map fun _ => value d

/-- What a plugin needs: its dependencies, and its failover once it has failed. -/
inductive Needs (r : Registry σ) (request : Request) : Target → Target → Prop
  | dependency {t u : Target} {w : Work σ} {d : String} (work : r.work? t = some w)
      (declared : d ∈ w.dependencies) (target : r.target? d = some u) : Needs r request t u
  | failover {t : Target} {w : Work σ} {m : Memo} {s s' : σ} {e : ResolutionError}
      {other : String} {value : String → Resolved} (work : r.work? t = some w)
      (supplied : r.Supplied request w m value)
      (failed : w.resolve request m s = (.error e, s')) (other_eq : w.failover = some other) :
      Needs r request t (.connector other)

variable {r : Registry σ} {request : Request}

/-! ## Results of work -/

theorem Yields.suits {t : Target} {a : Resolved} (h : r.Yields request t a) : a.Suits t := by
  induction h with
  | own work _ _ resolved _ => exact suits_of_resolve work resolved
  | replaced work _ _ _ other_eq _ _ ihInstead =>
      rw [connector_of_failover work other_eq]
      revert ihInstead
      cases ‹Resolved› <;> exact id

theorem Yields.work {t : Target} {a : Resolved} (h : r.Yields request t a) :
    (r.work? t).isSome := by
  cases h with
  | own work _ _ _ => rw [work]; rfl
  | replaced work _ _ _ _ _ => rw [work]; rfl

theorem Deterministic.work (h : r.Deterministic) {t : Target} {w : Work σ}
    (hw : r.work? t = some w) {m m' : Memo} (hm : ∀ d ∈ w.dependencies, m.get? d = m'.get? d)
    (s s' : σ) : (w.resolve request m s).1 = (w.resolve request m' s').1 := by
  cases t with
  | connector id =>
      obtain ⟨c, hc, rfl⟩ := Option.map_eq_some_iff.mp hw
      have hmem := List.mem_of_find?_eq_some hc
      exact congrArg (Except.map _) (h.connector c hmem request m m' s s' hm)
  | definition id =>
      obtain ⟨d, hd, rfl⟩ := Option.map_eq_some_iff.mp hw
      have hmem := List.mem_of_find?_eq_some hd
      exact congrArg (Except.map _) (h.definition d hmem request m m' s s' hm)

theorem Deterministic.resolved_eq (h : r.Deterministic) {t : Target} {w : Work σ}
    (hw : r.work? t = some w) {m m' : Memo} (hm : ∀ d ∈ w.dependencies, m.get? d = m'.get? d)
    {s s₁ s' s₂ : σ} {a b : Resolved} (hresolved : w.resolve request m s = (.ok a, s₁))
    (hresolved' : w.resolve request m' s' = (.ok b, s₂)) : a = b := by
  have hsame : (w.resolve request m s).1 = (w.resolve request m' s').1 := h.work hw hm s s'
  rw [hresolved, hresolved'] at hsame
  cases hsame
  rfl

/-- On the same results, a plugin does not fail once and not the next time. -/
theorem Deterministic.not_failed (h : r.Deterministic) {t : Target} {w : Work σ}
    (hw : r.work? t = some w) {m m' : Memo} (hm : ∀ d ∈ w.dependencies, m.get? d = m'.get? d)
    {s s₁ s' s₂ : σ} {a : Resolved} {e : ResolutionError}
    (hresolved : w.resolve request m s = (.ok a, s₁)) :
    w.resolve request m' s' ≠ (.error e, s₂) := by
  intro hfailed
  have hsame : (w.resolve request m s).1 = (w.resolve request m' s').1 := h.work hw hm s s'
  rw [hresolved, hfailed] at hsame
  cases hsame

namespace Supplied

variable {w : Work σ} {m : Memo} {value : String → Resolved}

/-- Where dependencies yield one result each, memos that supply a plugin look alike to it. -/
theorem get?_eq (h : r.Supplied request w m value) {m' : Memo} {value' : String → Resolved}
    (hmemo : ∀ d ∈ w.dependencies, m'.get? d = (r.target? d).map fun _ => value' d)
    (hunique : ∀ d ∈ w.dependencies, ∀ u, r.target? d = some u → value' d = value d) :
    ∀ d ∈ w.dependencies, m.get? d = m'.get? d := by
  intro d hd
  rw [h.memo d hd, hmemo d hd]
  cases htarget : r.target? d with
  | none => rfl
  | some u => rw [Option.map_some, Option.map_some, hunique d hd u htarget]

theorem own (h : r.Supplied request w m value) {t : Target} (hw : r.work? t = some w) {s s' : σ}
    {a : Resolved} (hresolved : w.resolve request m s = (.ok a, s')) : r.Yields request t a :=
  .own hw h.dependencies h.memo hresolved

theorem replaced (h : r.Supplied request w m value) {t : Target} (hw : r.work? t = some w)
    {s s' : σ} {e : ResolutionError} (hfailed : w.resolve request m s = (.error e, s'))
    {other : String} (hother : w.failover = some other) {a : Resolved}
    (hinstead : r.Yields request (.connector other) a) : r.Yields request t a :=
  .replaced hw h.dependencies h.memo hfailed hother hinstead

end Supplied

/-! ## One result -/

/-- A plugin yields at most one result.  The induction is on how it yields the first one. -/
theorem Yields.unique (hdet : r.Deterministic) {t : Target} {a b : Resolved}
    (ha : r.Yields request t a) (hb : r.Yields request t b) : a = b := by
  induction ha generalizing b with
  | @own t w m s s' a value work dependencies memo resolved ih =>
      cases hb with
      | own work' dependencies' memo' resolved' =>
          cases work.symm.trans work'
          have hagree := Supplied.get?_eq ⟨dependencies', memo'⟩ memo
            fun d hd u hu => ih d hd u hu (dependencies' d hd u hu)
          exact (hdet.resolved_eq work hagree resolved' resolved).symm
      | replaced work' dependencies' memo' failed _ _ =>
          cases work.symm.trans work'
          have hagree := Supplied.get?_eq ⟨dependencies', memo'⟩ memo
            fun d hd u hu => ih d hd u hu (dependencies' d hd u hu)
          exact absurd failed (hdet.not_failed work (fun d hd => (hagree d hd).symm) resolved)
  | @replaced t w m s s' e other a value work dependencies memo failed other_eq instead ih
      ihInstead =>
      cases hb with
      | own work' dependencies' memo' resolved =>
          cases work.symm.trans work'
          have hagree := Supplied.get?_eq ⟨dependencies', memo'⟩ memo
            fun d hd u hu => ih d hd u hu (dependencies' d hd u hu)
          exact absurd failed (hdet.not_failed work hagree resolved)
      | replaced work' _ _ _ other_eq' instead' =>
          cases work.symm.trans work'
          cases other_eq.symm.trans other_eq'
          exact ihInstead instead'

/-- Memos that supply a plugin look alike to it. -/
theorem Supplied.agree (hdet : r.Deterministic) {w : Work σ} {m m' : Memo}
    {value value' : String → Resolved} (h : r.Supplied request w m value)
    (h' : r.Supplied request w m' value') : ∀ d ∈ w.dependencies, m.get? d = m'.get? d :=
  h.get?_eq h'.memo fun d hd u hu =>
    (h'.dependencies d hd u hu).unique hdet (h.dependencies d hd u hu)

/-! ## No need of itself -/

/-- What a plugin needs comes before it, if it yields a result. -/
theorem Yields.acc (hdet : r.Deterministic) {t : Target} {a : Resolved}
    (h : r.Yields request t a) : Acc (fun u t => r.Needs request t u) t := by
  induction h with
  | own work dependencies memo resolved ih =>
      constructor
      intro u hneeds
      cases hneeds with
      | dependency work' declared target =>
          cases work.symm.trans work'
          exact ih _ declared u target
      | failover work' supplied failed _ =>
          cases work.symm.trans work'
          have hagree := Supplied.agree hdet ⟨dependencies, memo⟩ supplied
          exact absurd failed (hdet.not_failed work hagree resolved)
  | replaced work _ _ _ other_eq _ ih ihInstead =>
      constructor
      intro u hneeds
      cases hneeds with
      | dependency work' declared target =>
          cases work.symm.trans work'
          exact ih _ declared u target
      | failover work' _ _ other_eq' =>
          cases work.symm.trans work'
          cases other_eq.symm.trans other_eq'
          exact ihInstead

theorem not_self_of_acc {α : Type} {R : α → α → Prop} {x : α} (h : Acc R x) : ¬ R x x := by
  induction h with
  | intro x _ ih => exact fun hx => ih x hx hx

/-- A plugin that yields a result does not need itself, not even through others. -/
theorem Yields.not_needs_self (hdet : r.Deterministic) {t : Target} {a : Resolved}
    (h : r.Yields request t a) : ¬ Relation.TransGen (r.Needs request) t t := by
  intro hself
  apply not_self_of_acc (h.acc hdet).transGen
  exact Relation.transGen_swap.mp hself

end Registry

end AttributeRelease
