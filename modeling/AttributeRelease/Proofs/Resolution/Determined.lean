import AttributeRelease.Proofs.Resolution.Room

/-!
# Walks are determined

From one resolution and one world, plugins have one walk.  So there is a walk that ends in some way
if and only if the steps that follow it answer accordingly.
-/

namespace AttributeRelease

variable {σ α : Type}

namespace Registry

/-- How a walk goes on behind a plugin that was entered, and whose dependencies came out somehow. -/
inductive Onward (r : Registry σ) (t : Target) (w : Work σ) (rest : List Target) (y : Resolution)
    (s : σ) : Except Fault Unit → Except Fault Unit → Resolution → σ → Prop
  | dependency {f : Fault} : Onward r t w rest y s (.error f) (.error f) (y.leave t.id) s
  | own {z : Resolution} {s₂ s' : σ} {a : Resolved} {out : Except Fault Unit}
      (resolved : w.resolve y.request y.memo s = (.ok a, s₂))
      (next : r.Walk rest ((y.leave t.id).record t.id a) s₂ out z s') :
      Onward r t w rest y s (.ok ()) out z s'
  | failed {s₂ : σ} {e : ResolutionError}
      (failed : w.resolve y.request y.memo s = (.error e, s₂)) (alone : w.failover = none) :
      Onward r t w rest y s (.ok ()) (.error (.plugin t e)) (y.leave t.id) s₂
  | failover {z : Resolution} {s₂ s' : σ} {e : ResolutionError} {other : String} {f : Fault}
      (failed : w.resolve y.request y.memo s = (.error e, s₂)) (other_eq : w.failover = some other)
      (instead : r.Walk [.connector other] y s₂ (.error f) z s') :
      Onward r t w rest y s (.ok ()) (.error f) (z.leave t.id) s'
  | replaced {z v : Resolution} {s₂ s₃ s' : σ} {e : ResolutionError} {other : String}
      {a : Resolved} {out : Except Fault Unit}
      (failed : w.resolve y.request y.memo s = (.error e, s₂)) (other_eq : w.failover = some other)
      (instead : r.Walk [.connector other] y s₂ (.ok ()) z s₃)
      (result : z.memo.result? (.connector other) = some a)
      (next : r.Walk rest ((z.leave t.id).record t.id a) s₃ out v s') :
      Onward r t w rest y s (.ok ()) out v s'

variable {r : Registry σ}

/-- A walk enters a plugin that is registered, has no result and is not in progress. -/
theorem Walk.onward {t : Target} {w : Work σ} {rest : List Target} {x z : Resolution} {s s' : σ}
    {out : Except Fault Unit} (h : r.Walk (t :: rest) x s out z s')
    (fresh : x.memo.result? t = none) (work : r.work? t = some w) (free : t.id ∉ x.inProgress) :
    ∃ first y s₁, r.Walk (r.targets w.dependencies) (x.push t.id) s first y s₁ ∧
      r.Onward t w rest y s₁ first out z s' := by
  cases h with
  | known result _ =>
      rw [fresh] at result
      cases result
  | absent _ none _ =>
      rw [work] at none
      cases none
  | unknown _ none =>
      rw [work] at none
      cases none
  | cycle _ _ entered => exact absurd entered free
  | dependency _ work' _ dependencies =>
      rw [work] at work'
      cases work'
      exact ⟨_, _, _, dependencies, .dependency⟩
  | own _ work' _ dependencies resolved next =>
      rw [work] at work'
      cases work'
      exact ⟨_, _, _, dependencies, .own resolved next⟩
  | failed _ work' _ dependencies failed alone =>
      rw [work] at work'
      cases work'
      exact ⟨_, _, _, dependencies, .failed failed alone⟩
  | failover _ work' _ dependencies failed other_eq instead =>
      rw [work] at work'
      cases work'
      exact ⟨_, _, _, dependencies, .failover failed other_eq instead⟩
  | replaced _ work' _ dependencies failed other_eq instead result next =>
      rw [work] at work'
      cases work'
      exact ⟨_, _, _, dependencies, .replaced failed other_eq instead result next⟩

/-- The induction is on the first walk; the second one goes the same way at every plugin. -/
theorem Walk.unique {ts : List Target} {x y y' : Resolution} {s s₁ s₂ : σ}
    {out out' : Except Fault Unit} (h : r.Walk ts x s out y s₁) (h' : r.Walk ts x s out' y' s₂) :
    out' = out ∧ y' = y ∧ s₂ = s₁ := by
  induction h generalizing y' s₂ out' with
  | nil =>
      cases h'
      exact ⟨rfl, rfl, rfl⟩
  | known result _ ih =>
      cases h' with
      | known _ next => exact ih next
      | absent fresh _ _ | unknown fresh _ | cycle fresh _ _ | dependency fresh _ _ _
      | own fresh _ _ _ _ _ | failed fresh _ _ _ _ _ | failover fresh _ _ _ _ _ _
      | replaced fresh _ _ _ _ _ _ _ _ =>
          rw [fresh] at result
          cases result
  | absent fresh none _ ih =>
      cases h' with
      | known result _ =>
          rw [fresh] at result
          cases result
      | absent _ _ next => exact ih next
      | cycle _ work _ | dependency _ work _ _ | own _ work _ _ _ _ | failed _ work _ _ _ _
      | failover _ work _ _ _ _ _ | replaced _ work _ _ _ _ _ _ _ =>
          rw [none] at work
          cases work
  | unknown fresh none =>
      cases h' with
      | known result _ =>
          rw [fresh] at result
          cases result
      | unknown _ _ => exact ⟨rfl, rfl, rfl⟩
      | cycle _ work _ | dependency _ work _ _ | own _ work _ _ _ _ | failed _ work _ _ _ _
      | failover _ work _ _ _ _ _ | replaced _ work _ _ _ _ _ _ _ =>
          rw [none] at work
          cases work
  | cycle fresh work entered =>
      cases h' with
      | known result _ =>
          rw [fresh] at result
          cases result
      | absent _ none _ | unknown _ none =>
          rw [work] at none
          cases none
      | cycle _ _ _ => exact ⟨rfl, rfl, rfl⟩
      | dependency _ _ free _ | own _ _ free _ _ _ | failed _ _ free _ _ _
      | failover _ _ free _ _ _ _ | replaced _ _ free _ _ _ _ _ _ => exact absurd entered free
  | dependency fresh work free _ ih =>
      obtain ⟨first, z, t, dependencies, honward⟩ := h'.onward fresh work free
      obtain ⟨rfl, rfl, rfl⟩ := ih dependencies
      cases honward
      exact ⟨rfl, rfl, rfl⟩
  | own fresh work free _ resolved _ ih ihNext =>
      obtain ⟨first, z, t, dependencies, honward⟩ := h'.onward fresh work free
      obtain ⟨rfl, rfl, rfl⟩ := ih dependencies
      cases honward with
      | own resolved' next =>
          rw [resolved] at resolved'
          cases resolved'
          exact ihNext next
      | failed failed _ | failover failed _ _ | replaced failed _ _ _ _ =>
          rw [resolved] at failed
          cases failed
  | failed fresh work free _ failed alone ih =>
      obtain ⟨first, z, t, dependencies, honward⟩ := h'.onward fresh work free
      obtain ⟨rfl, rfl, rfl⟩ := ih dependencies
      cases honward with
      | own resolved _ =>
          rw [failed] at resolved
          cases resolved
      | failed failed' _ =>
          rw [failed] at failed'
          cases failed'
          exact ⟨rfl, rfl, rfl⟩
      | failover _ other_eq _ | replaced _ other_eq _ _ _ =>
          rw [alone] at other_eq
          cases other_eq
  | failover fresh work free _ failed other_eq _ ih ihInstead =>
      obtain ⟨first, z, t, dependencies, honward⟩ := h'.onward fresh work free
      obtain ⟨rfl, rfl, rfl⟩ := ih dependencies
      cases honward with
      | own resolved _ =>
          rw [failed] at resolved
          cases resolved
      | failed _ alone =>
          rw [other_eq] at alone
          cases alone
      | failover failed' other_eq' instead =>
          rw [failed] at failed'
          rw [other_eq] at other_eq'
          cases failed'
          cases other_eq'
          obtain ⟨heq, rfl, rfl⟩ := ihInstead instead
          cases heq
          exact ⟨rfl, rfl, rfl⟩
      | replaced failed' other_eq' instead _ _ =>
          rw [failed] at failed'
          rw [other_eq] at other_eq'
          cases failed'
          cases other_eq'
          cases (ihInstead instead).1
  | replaced fresh work free _ failed other_eq _ result _ ih ihInstead ihNext =>
      obtain ⟨first, z, t, dependencies, honward⟩ := h'.onward fresh work free
      obtain ⟨rfl, rfl, rfl⟩ := ih dependencies
      cases honward with
      | own resolved _ =>
          rw [failed] at resolved
          cases resolved
      | failed _ alone =>
          rw [other_eq] at alone
          cases alone
      | failover failed' other_eq' instead =>
          rw [failed] at failed'
          rw [other_eq] at other_eq'
          cases failed'
          cases other_eq'
          cases (ihInstead instead).1
      | replaced failed' other_eq' instead result' next =>
          rw [failed] at failed'
          rw [other_eq] at other_eq'
          cases failed'
          cases other_eq'
          obtain ⟨-, rfl, rfl⟩ := ihInstead instead
          rw [result] at result'
          cases result'
          exact ihNext next

/-! ## Answers -/

/-- Steps answer with a result where the walk has one, and with what can be read of it. -/
theorem Follows.eq_ok_iff {read : Memo → α → Prop} {ts : List Target} {x y : Resolution} {s s' : σ}
    {answer : Except ResolutionError α × Resolution × σ} (h : r.Follows read ts x s answer)
    (hread : ∀ {m a b}, read m a → read m b → a = b) {a : α} :
    answer = (.ok a, y, s') ↔ r.Walk ts x s (.ok ()) y s' ∧ read y.memo a := by
  cases h with
  | ok walk value =>
      constructor
      · intro heq
        cases heq
        exact ⟨walk, value⟩
      · rintro ⟨walk', value'⟩
        obtain ⟨-, rfl, rfl⟩ := walk.unique walk'
        rw [hread value value']
  | error walk =>
      refine iff_of_false (fun heq => by cases heq) fun ⟨walk', _⟩ => ?_
      cases (walk.unique walk').1

/-- Steps answer with an error where a fault ends the walk. -/
theorem Follows.eq_error_iff {read : Memo → α → Prop} {ts : List Target} {x y : Resolution}
    {s s' : σ} {answer : Except ResolutionError α × Resolution × σ}
    (h : r.Follows read ts x s answer) {e : ResolutionError} :
    answer = (.error e, y, s') ↔ ∃ f : Fault, f.error = e ∧ r.Walk ts x s (.error f) y s' := by
  cases h with
  | ok walk _ =>
      refine iff_of_false (fun heq => by cases heq) fun ⟨f, _, walk'⟩ => ?_
      cases (walk.unique walk').1
  | @error f _ _ walk =>
      constructor
      · intro heq
        cases heq
        exact ⟨f, rfl, walk⟩
      · rintro ⟨f', rfl, walk'⟩
        obtain ⟨heq, rfl, rfl⟩ := walk.unique walk'
        cases heq
        rfl

section Dependencies

variable {ids : List String} {x y : Resolution} {s s' : σ}

/-- Dependencies are resolved where there is a walk through them. -/
theorem resolveDependencies_eq_ok_iff (hx : r.Fits (r.size + 1) x.inProgress) :
    r.resolveDependencies ids x s = (.ok (), y, s') ↔
      r.Walk (r.targets ids) x s (.ok ()) y s' :=
  ((r.resolveDependencies_within ids s hx).eq_ok_iff fun _ _ => rfl).trans (and_iff_left trivial)

theorem resolveDependencies_eq_error_iff (hx : r.Fits (r.size + 1) x.inProgress)
    {e : ResolutionError} :
    r.resolveDependencies ids x s = (.error e, y, s') ↔
      ∃ f : Fault, f.error = e ∧ r.Walk (r.targets ids) x s (.error f) y s' :=
  (r.resolveDependencies_within ids s hx).eq_error_iff

end Dependencies

end Registry

end AttributeRelease
