import AttributeRelease.Proofs.Resolution.Target
import AttributeRelease.Resolution.Basic

/-!
# Walks as derivations

What happens when plugins are resolved one after the other, without any bound on how deep they lie
in each other.  A walk is a finite derivation, so whatever has one comes to an end.
-/

namespace AttributeRelease

variable {σ : Type}

/-- What ends a walk early. -/
inductive Fault
  /-- A plugin is needed for itself; the path leads from it back to it. -/
  | cycle (path : List String)
  /-- A connector is needed that there is none of. -/
  | unknown (id : String)
  /-- A plugin failed, and nothing stood in for it. -/
  | plugin (t : Target) (e : ResolutionError)

/-- The error that a fault is reported as. -/
def Fault.error : Fault → ResolutionError
  | cycle path => .circularDependency (Graph.pathText path)
  | unknown id => .unknownDataConnector id
  | plugin _ e => e

/-- A resolution with one more plugin in progress. -/
def Resolution.push (x : Resolution) (id : String) : Resolution :=
  { x with inProgress := id :: x.inProgress }

/-- Plugins are resolved in order: from a resolution and a world, with an outcome, to the resolution
and the world after it. -/
inductive Registry.Walk (r : Registry σ) :
    List Target → Resolution → σ → Except Fault Unit → Resolution → σ → Prop
  | nil {x : Resolution} {s : σ} : Walk r [] x s (.ok ()) x s
  /-- A plugin that has a result is not resolved again. -/
  | known {t : Target} {rest : List Target} {x y : Resolution} {s s' : σ}
      {out : Except Fault Unit} (result : (x.memo.result? t).isSome)
      (next : Walk r rest x s out y s') : Walk r (t :: rest) x s out y s'
  /-- A definition that there is none of is passed over. -/
  | absent {id : String} {rest : List Target} {x y : Resolution} {s s' : σ}
      {out : Except Fault Unit} (fresh : x.memo.result? (.definition id) = none)
      (none : r.work? (.definition id) = none) (next : Walk r rest x s out y s') :
      Walk r (.definition id :: rest) x s out y s'
  | unknown {id : String} {rest : List Target} {x : Resolution} {s : σ}
      (fresh : x.memo.result? (.connector id) = none)
      (none : r.work? (.connector id) = none) :
      Walk r (.connector id :: rest) x s (.error (.unknown id)) x s
  | cycle {t : Target} {w : Work σ} {rest : List Target} {x : Resolution} {s : σ}
      (fresh : x.memo.result? t = none) (work : r.work? t = some w)
      (entered : t.id ∈ x.inProgress) :
      Walk r (t :: rest) x s
        (.error (.cycle (Graph.cycleFrom x.inProgress.reverse t.id))) x s
  /-- A dependency ended the walk. -/
  | dependency {t : Target} {w : Work σ} {rest : List Target} {x y : Resolution} {s s' : σ}
      {f : Fault} (fresh : x.memo.result? t = none) (work : r.work? t = some w)
      (free : t.id ∉ x.inProgress)
      (dependencies : Walk r (r.targets w.dependencies) (x.push t.id) s (.error f) y s') :
      Walk r (t :: rest) x s (.error f) (y.leave t.id) s'
  /-- A plugin that does not fail has a result. -/
  | own {t : Target} {w : Work σ} {rest : List Target} {x y z : Resolution}
      {s s₁ s₂ s' : σ} {a : Resolved} {out : Except Fault Unit}
      (fresh : x.memo.result? t = none) (work : r.work? t = some w) (free : t.id ∉ x.inProgress)
      (dependencies : Walk r (r.targets w.dependencies) (x.push t.id) s (.ok ()) y s₁)
      (resolved : w.resolve y.request y.memo s₁ = (.ok a, s₂))
      (next : Walk r rest ((y.leave t.id).record t.id a) s₂ out z s') :
      Walk r (t :: rest) x s out z s'
  | failed {t : Target} {w : Work σ} {rest : List Target} {x y : Resolution} {s s₁ s₂ : σ}
      {e : ResolutionError} (fresh : x.memo.result? t = none) (work : r.work? t = some w)
      (free : t.id ∉ x.inProgress)
      (dependencies : Walk r (r.targets w.dependencies) (x.push t.id) s (.ok ()) y s₁)
      (failed : w.resolve y.request y.memo s₁ = (.error e, s₂)) (alone : w.failover = none) :
      Walk r (t :: rest) x s (.error (.plugin t e)) (y.leave t.id) s₂
  /-- The failover ended the walk. -/
  | failover {t : Target} {w : Work σ} {rest : List Target} {x y z : Resolution}
      {s s₁ s₂ s' : σ} {e : ResolutionError} {other : String} {f : Fault}
      (fresh : x.memo.result? t = none) (work : r.work? t = some w) (free : t.id ∉ x.inProgress)
      (dependencies : Walk r (r.targets w.dependencies) (x.push t.id) s (.ok ()) y s₁)
      (failed : w.resolve y.request y.memo s₁ = (.error e, s₂))
      (other_eq : w.failover = some other)
      (instead : Walk r [.connector other] y s₂ (.error f) z s') :
      Walk r (t :: rest) x s (.error f) (z.leave t.id) s'
  /-- A connector that fails has the result of its failover. -/
  | replaced {t : Target} {w : Work σ} {rest : List Target} {x y z v : Resolution}
      {s s₁ s₂ s₃ s' : σ} {e : ResolutionError} {other : String} {a : Resolved}
      {out : Except Fault Unit}
      (fresh : x.memo.result? t = none) (work : r.work? t = some w) (free : t.id ∉ x.inProgress)
      (dependencies : Walk r (r.targets w.dependencies) (x.push t.id) s (.ok ()) y s₁)
      (failed : w.resolve y.request y.memo s₁ = (.error e, s₂))
      (other_eq : w.failover = some other)
      (instead : Walk r [.connector other] y s₂ (.ok ()) z s₃)
      (result : z.memo.result? (.connector other) = some a)
      (next : Walk r rest ((z.leave t.id).record t.id a) s₃ out v s') :
      Walk r (t :: rest) x s out v s'

namespace Resolution

theorem enter_of_not_mem {x : Resolution} {id : String} (h : id ∉ x.inProgress) :
    x.enter id = .ok (x.push id) := enter_eq_ok_iff.mpr ⟨h, rfl⟩

theorem enter_of_mem {x : Resolution} {id : String} (h : id ∈ x.inProgress) :
    x.enter id = .error (Fault.cycle (Graph.cycleFrom x.inProgress.reverse id)).error := by
  rw [enter, if_pos (List.contains_iff_mem.mpr h)]
  rfl

/-- Whatever a plugin that was entered did to the memo, leaving it takes back that it was
entered. -/
theorem leave_inProgress {x y : Resolution} {id : String}
    (h : y.inProgress = (x.push id).inProgress) : (y.leave id).inProgress = x.inProgress := by
  rw [leave, h, push]
  exact List.erase_cons_head id x.inProgress

end Resolution

namespace Registry.Walk

open Resolution (leave_inProgress)

variable {r : Registry σ}

/-- A walk changes neither the request nor what is in progress. -/
theorem frame {ts : List Target} {x y : Resolution} {s s' : σ} {out : Except Fault Unit}
    (h : r.Walk ts x s out y s') : y.request = x.request ∧ y.inProgress = x.inProgress := by
  induction h with
  | nil => exact ⟨rfl, rfl⟩
  | known _ _ ih => exact ih
  | absent _ _ _ ih => exact ih
  | unknown _ _ => exact ⟨rfl, rfl⟩
  | cycle _ _ _ => exact ⟨rfl, rfl⟩
  | dependency _ _ _ _ ih => exact ⟨ih.1, leave_inProgress ih.2⟩
  | own _ _ _ _ _ _ ih ihNext =>
      exact ⟨ihNext.1.trans ih.1, ihNext.2.trans (leave_inProgress ih.2)⟩
  | failed _ _ _ _ _ _ ih => exact ⟨ih.1, leave_inProgress ih.2⟩
  | failover _ _ _ _ _ _ _ ih ihInstead =>
      exact ⟨ihInstead.1.trans ih.1, leave_inProgress (ihInstead.2.trans ih.2)⟩
  | replaced _ _ _ _ _ _ _ _ _ ih ihInstead ihNext =>
      exact ⟨ihNext.1.trans (ihInstead.1.trans ih.1),
        ihNext.2.trans (leave_inProgress (ihInstead.2.trans ih.2))⟩

/-- A walk that is not ended early goes on with what comes next. -/
theorem append {ts us : List Target} {x y z : Resolution} {s s' s'' : σ}
    {out : Except Fault Unit} (h : r.Walk ts x s (.ok ()) y s') (next : r.Walk us y s' out z s'') :
    r.Walk (ts ++ us) x s out z s'' := by
  generalize hout : (Except.ok () : Except Fault Unit) = first at h
  induction h with
  | nil => exact next
  | known result _ ih => exact .known result (ih next hout)
  | absent fresh none _ ih => exact .absent fresh none (ih next hout)
  | own fresh work free dependencies resolved _ _ ihNext =>
      exact .own fresh work free dependencies resolved (ihNext next hout)
  | replaced fresh work free dependencies failed other_eq instead result _ _ _ ihNext =>
      exact .replaced fresh work free dependencies failed other_eq instead result
        (ihNext next hout)
  | _ => cases hout

/-- After a walk was ended early, nothing else happens. -/
theorem append_error {ts : List Target} {x y : Resolution} {s s' : σ} {f : Fault}
    (h : r.Walk ts x s (.error f) y s') (us : List Target) :
    r.Walk (ts ++ us) x s (.error f) y s' := by
  generalize hout : (Except.error f : Except Fault Unit) = first at h
  induction h with
  | nil => cases hout
  | known result _ ih => exact .known result (ih hout)
  | absent fresh none _ ih => exact .absent fresh none (ih hout)
  | unknown fresh none => exact .unknown fresh none
  | cycle fresh work entered => exact .cycle fresh work entered
  | dependency fresh work free dependencies _ => exact .dependency fresh work free dependencies
  | own fresh work free dependencies resolved _ _ ihNext =>
      exact .own fresh work free dependencies resolved (ihNext hout)
  | failed fresh work free dependencies failed alone _ =>
      exact .failed fresh work free dependencies failed alone
  | failover fresh work free dependencies failed other_eq instead _ _ =>
      exact .failover fresh work free dependencies failed other_eq instead
  | replaced fresh work free dependencies failed other_eq instead result _ _ _ ihNext =>
      exact .replaced fresh work free dependencies failed other_eq instead result (ihNext hout)

end Registry.Walk

end AttributeRelease
