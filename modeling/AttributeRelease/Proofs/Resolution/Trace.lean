import AttributeRelease.Proofs.Resolution.Simulation
import AttributeRelease.Proofs.Resolution.Target

/-!
# Traces of invocations

A registry whose plugins keep a log, beside the world, of when they are invoked, and what they are
given.  Apart from the log, everything is as it is without.
-/

namespace AttributeRelease

variable {σ α : Type}

/-- An invocation of a plugin: the memo that it is given, and whether it fails. -/
structure Invocation where
  target : Target
  memo : Memo
  failed : Bool

/-- A world with a log of invocations. -/
abbrev Logged (σ : Type) := List Invocation × σ

/-- The ids of the plugins that were invoked, in order. -/
def loggedIds (log : List Invocation) : List String := log.map (·.target.id)

/-- An answer that logs the invocation that it comes from. -/
def logged (t : Target) (m : Memo) (log : List Invocation) (answer : Except ResolutionError α × σ) :
    Except ResolutionError α × Logged σ :=
  (answer.1, (log ++ [⟨t, m, !answer.1.isOk⟩], answer.2))

def Connector.traced (c : Connector σ) : Connector (Logged σ) where
  id := c.id
  dependencies := c.dependencies
  failover := c.failover
  resolve request m s := logged (.connector c.id) m s.1 (c.resolve request m s.2)
  check s := ((c.check s.2).1, (s.1, (c.check s.2).2))

def Definition.traced (d : Definition σ) : Definition (Logged σ) where
  id := d.id
  dependencies := d.dependencies
  dependencyOnly := d.dependencyOnly
  resolve request m s := logged (.definition d.id) m s.1 (d.resolve request m s.2)
  check s := ((d.check s.2).1, (s.1, (d.check s.2).2))

/-- The registry with a log.  Principal connectors have no part in the resolution of attributes. -/
def Registry.traced (r : Registry σ) : Registry (Logged σ) where
  connectors := r.connectors.map Connector.traced
  definitions := r.definitions.map Definition.traced
  principals := []

def Resolver.traced (e : Resolver σ) : Resolver (Logged σ) where
  id := e.id
  registry := e.registry.traced

namespace Registry

theorem connector?_traced (r : Registry σ) (id : String) :
    r.traced.connector? id = (r.connector? id).map Connector.traced := by
  rw [connector?, connector?, traced, List.find?_map]
  rfl

theorem definition?_traced (r : Registry σ) (id : String) :
    r.traced.definition? id = (r.definition? id).map Definition.traced := by
  rw [definition?, definition?, traced, List.find?_map]
  rfl

theorem target?_traced (r : Registry σ) : r.traced.target? = r.target? := by
  funext id
  rw [target?, target?, connector?_traced, definition?_traced, Option.isSome_map,
    Option.isSome_map]

theorem targets_traced (r : Registry σ) : r.traced.targets = r.targets := by
  funext ids
  rw [targets, targets, target?_traced]

/-- What a plugin declares to depend on. -/
def dependenciesOf (r : Registry σ) (t : Target) : List String :=
  ((r.work? t).map (·.dependencies)).getD []

/-- What a plugin fails over to. -/
def failoverOf (r : Registry σ) (t : Target) : Option String := (r.work? t).bind (·.failover)

/-- A plugin with a log does what it does without, and logs that it was invoked. -/
structure TracedWork (r : Registry σ) (t : Target) (w : Work (Logged σ)) : Prop where
  registered : (r.work? t).isSome
  dependencies : w.dependencies = r.dependenciesOf t
  failover : w.failover = r.failoverOf t
  logs : ∀ {request : Request} {m : Memo} {s s' : Logged σ}
    {result : Except ResolutionError Resolved},
    w.resolve request m s = (result, s') → s'.1 = s.1 ++ [⟨t, m, !result.isOk⟩]

/-- The log only gets longer. -/
theorem TracedWork.grows {r : Registry σ} {t : Target} {w : Work (Logged σ)}
    (h : r.TracedWork t w) {request : Request} {m : Memo} {s s' : Logged σ}
    {result : Except ResolutionError Resolved} (hresult : w.resolve request m s = (result, s')) :
    ∀ i ∈ s.1, i ∈ s'.1 := by
  intro i hi
  rw [h.logs hresult]
  exact List.mem_append_left _ hi

theorem TracedWork.of_work {r : Registry σ} {t : Target} {w : Work (Logged σ)} {plain : Work σ}
    (work : r.work? t = some plain) (dependencies : w.dependencies = plain.dependencies)
    (failover : w.failover = plain.failover)
    (logs : ∀ {request : Request} {m : Memo} {s s' : Logged σ}
      {result : Except ResolutionError Resolved},
      w.resolve request m s = (result, s') → s'.1 = s.1 ++ [⟨t, m, !result.isOk⟩]) :
    r.TracedWork t w where
  registered := Option.isSome_of_eq_some work
  dependencies := by
    rw [dependenciesOf, work]
    exact dependencies
  failover := by
    rw [failoverOf, work]
    exact failover
  logs := logs

theorem isOk_map {ε β : Type} (f : α → β) (result : Except ε α) :
    (result.map f).isOk = result.isOk := by
  cases result <;> rfl

theorem tracedWork {r : Registry σ} {t : Target} {w : Work (Logged σ)}
    (h : r.traced.work? t = some w) : r.TracedWork t w := by
  cases t with
  | connector id =>
      rw [work?, connector?_traced, Option.map_map] at h
      obtain ⟨c, hc, rfl⟩ := Option.map_eq_some_iff.mp h
      have hid : c.id = id := by simpa using List.find?_some hc
      have hwork : r.work? (.connector id) = some c.work := by rw [work?, hc]; rfl
      refine .of_work hwork rfl rfl ?_
      intro request m s s' result hresult
      cases hresult
      rw [isOk_map, ← hid]
      rfl
  | definition id =>
      rw [work?, definition?_traced, Option.map_map] at h
      obtain ⟨d, hd, rfl⟩ := Option.map_eq_some_iff.mp h
      have hid : d.id = id := by simpa using List.find?_some hd
      have hwork : r.work? (.definition id) = some d.work := by rw [work?, hd]; rfl
      refine .of_work hwork rfl rfl ?_
      intro request m s s' result hresult
      cases hresult
      rw [isOk_map, ← hid]
      rfl

theorem isSome_work?_traced (r : Registry σ) (t : Target) :
    (r.traced.work? t).isSome = (r.work? t).isSome := by
  cases t with
  | connector id => rw [work?, work?, connector?_traced, Option.isSome_map, Option.isSome_map,
      Option.isSome_map]
  | definition id => rw [work?, work?, definition?_traced, Option.isSome_map, Option.isSome_map,
      Option.isSome_map]

end Registry

/-! ## Without the log -/

/-- A plugin with a log corresponds to the one without. -/
theorem Connector.traced_corresponds (c : Connector σ) :
    c.traced.Corresponds (fun (l : Logged σ) s => l.2 = s) c where
  id := rfl
  dependencies := rfl
  failover := rfl
  resolve request m := by
    intro l s hl
    subst hl
    exact ⟨_, _, _, rfl, rfl, rfl⟩

theorem Definition.traced_corresponds (d : Definition σ) :
    d.traced.Corresponds (fun (l : Logged σ) s => l.2 = s) d where
  id := rfl
  dependencies := rfl
  dependencyOnly := rfl
  resolve request m := by
    intro l s hl
    subst hl
    exact ⟨_, _, _, rfl, rfl, rfl⟩

theorem Registry.traced_corresponds (r : Registry σ) :
    r.traced.Corresponds (fun (l : Logged σ) s => l.2 = s) r where
  connectors := List.forall₂_map_left_iff.mpr
    (List.forall₂_same.mpr fun c _ => c.traced_corresponds)
  definitions := List.forall₂_map_left_iff.mpr
    (List.forall₂_same.mpr fun d _ => d.traced_corresponds)

theorem Resolver.traced_corresponds (e : Resolver σ) :
    e.traced.registry.Corresponds (fun (l : Logged σ) s => l.2 = s) e.registry :=
  e.registry.traced_corresponds

theorem Resolver.requested_traced (e : Resolver σ) (request : Request) :
    e.traced.requested request = e.requested request :=
  requested_corresponds e.traced_corresponds request

/-- A resolver with a log resolves the attributes that it resolves without. -/
theorem Resolver.resolveIn_erases (e : Resolver σ) (x : Resolution) (log : List Invocation)
    (s : σ) : ∃ log', e.traced.resolveIn x (log, s) =
      ((e.resolveIn x s).1, (e.resolveIn x s).2.1, (log', (e.resolveIn x s).2.2)) := by
  obtain ⟨result, y, ⟨log', s'⟩, t', htraced, hplain, hsame⟩ :=
    resolveIn_corresponds e.traced_corresponds x (log, s) s rfl
  change s' = t' at hsame
  subst hsame
  exact ⟨log', by rw [htraced, hplain]⟩

end AttributeRelease
