import AttributeRelease.Proofs.Resolution.Room

/-!
# Calls of a resolver

Whatever a resolver is asked for, its answer follows a walk.
-/

namespace AttributeRelease

variable {σ : Type}

namespace Registry

/-- Definitions that a registry does not have are passed over. -/
theorem walk_absent {r : Registry σ} {ids : List String} (x : Resolution) (s : σ)
    (h : ∀ id ∈ ids, r.work? (.definition id) = none) :
    r.Walk (ids.map .definition) x s (.ok ()) x s := by
  induction ids with
  | nil => exact .nil
  | cons id rest ih =>
      have hnext := ih fun other hother => h other (List.mem_cons_of_mem id hother)
      cases hresult : x.memo.result? (.definition id) with
      | none => exact .absent hresult (h id List.mem_cons_self) hnext
      | some a => exact .known (by rw [hresult]; rfl) hnext

end Registry

namespace Resolver

/-- The definitions that a request asks for, one walk through all of them. -/
def asked (e : Resolver σ) (request : Request) : List Target :=
  (e.requested request).map .definition

theorem resolveIn_follows (e : Resolver σ) {x : Resolution} (s : σ) (hx : x.inProgress = []) :
    e.registry.Follows (fun _ _ => True) (e.asked x.request) x s (e.resolveIn x s) := by
  rw [resolveIn]
  split
  · next hempty =>
      refine .ok (Registry.walk_absent x s fun id _ => ?_) trivial
      rw [List.isEmpty_iff] at hempty
      rw [Registry.work?, Registry.definition?, hempty]
      rfl
  · have hstep := (e.registry.within_follow (e.registry.size + 1)).2
    have hfits : e.registry.Fits (e.registry.size + 1) x.inProgress := hx ▸ .atRest e.registry
    have heach := Registry.each_follows hstep (e.requested x.request) (s := s) hfits
    rw [← List.map_eq_flatMap] at heach
    change Registry.Follows _ _ _ _ _
      (Resolution.each e.registry.resolveDefinition (e.requested x.request) x s) at heach
    rcases heach.inv with ⟨resolved, y, s', heq, walk, _⟩ | ⟨f, y, s', heq, walk⟩
    · simp only [heq]
      exact .ok walk trivial
    · simp only [heq]
      exact .error walk

/-- How a principal is found: its connector is asked once its dependencies have been resolved. -/
inductive FindsPrincipal (e : Resolver σ) (request : Request) (s : σ) :
    Except ResolutionError String × σ → Prop
  | missing (missing : e.registry.principal? request.subjectFormat request.requester = none) :
      FindsPrincipal e request s
        (.error (.noPrincipalConnector request.subjectFormat (request.requester.getD "")), s)
  | fault {p : PrincipalConnector σ} {f : Fault} {y : Resolution} {s' : σ}
      (connector : e.registry.principal? request.subjectFormat request.requester = some p)
      (walk : e.registry.Walk (e.registry.targets p.dependencies) (.start request) s (.error f)
        y s') : FindsPrincipal e request s (.error f.error, s')
  | own {p : PrincipalConnector σ} {y : Resolution} {s' : σ}
      (connector : e.registry.principal? request.subjectFormat request.requester = some p)
      (walk : e.registry.Walk (e.registry.targets p.dependencies) (.start request) s (.ok ())
        y s') : FindsPrincipal e request s (p.resolve y.request y.memo s')

theorem resolvePrincipal_finds (e : Resolver σ) (request : Request) (s : σ) :
    e.FindsPrincipal request s (e.resolvePrincipal request s) := by
  rw [resolvePrincipal]
  cases hp : e.registry.principal? request.subjectFormat request.requester with
  | none => exact .missing hp
  | some p =>
      rcases (e.registry.resolveDependencies_follows p.dependencies (x := .start request) s
        rfl).inv with ⟨_, y, s', heq, walk, _⟩ | ⟨f, y, s', heq, walk⟩
      · simp only [heq]
        exact .own hp walk
      · simp only [heq]
        exact .fault hp walk

end Resolver

end AttributeRelease
