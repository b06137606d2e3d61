import AttributeRelease.Proofs.Registry.Order
import AttributeRelease.Proofs.Resolution.Calls

/-!
# Checks and walks agree on cycles

Every call of a resolver comes to an end, since it follows a walk, and a cycle that a walk reports
is one of links between plugins.  A resolver whose plugins were checked, when it was made and
whenever it was given others, has no such cycle, so none of its walks reports one.
-/

namespace AttributeRelease

variable {σ : Type}

namespace Resolver

/-- The resolver after attempts to give it other plugins.  One that is refused changes nothing. -/
def reloaded (e : Resolver σ) (attempts : List (Registry σ × σ)) : Resolver σ :=
  attempts.foldl (fun e attempt =>
    match (e.reload attempt.1 attempt.2).1 with
    | .ok e' => e'
    | .error _ => e) e

/-- Plugins that were accepted have links that lead downwards. -/
theorem descends_of_reload {e e' : Resolver σ} {registry : Registry σ} {s : σ}
    (hbuilt : registry.Built) (h : (e.reload registry s).1 = .ok e') : e'.registry.Descends := by
  rw [reload] at h
  cases hcheck : registry.check s with
  | mk result s' =>
      rw [hcheck] at h
      cases result with
      | error cause => cases h
      | ok _ =>
          cases h
          exact hbuilt.descends hcheck

theorem descends_of_validated {e : Resolver σ} {id : String} {registry : Registry σ} {s s' : σ}
    (hbuilt : registry.Built) (h : validated id registry s = (.ok e, s')) :
    e.registry.Descends := by
  rw [validated] at h
  exact descends_of_reload hbuilt (congrArg Prod.fst h)

theorem reloaded_descends {e : Resolver σ} (h : e.registry.Descends)
    {attempts : List (Registry σ × σ)} (hbuilt : ∀ attempt ∈ attempts, attempt.1.Built) :
    (e.reloaded attempts).registry.Descends := by
  induction attempts generalizing e with
  | nil => exact h
  | cons attempt rest ih =>
      have hrest : ∀ other ∈ rest, other.1.Built := fun other hother =>
        hbuilt other (List.mem_cons_of_mem attempt hother)
      rw [reloaded, List.foldl_cons]
      refine ih ?_ hrest
      split
      · next e' heq => exact descends_of_reload (hbuilt attempt List.mem_cons_self) heq
      · exact h

end Resolver

/-- A walk of links that lead downwards meets no cycle. -/
theorem Registry.Descends.no_cycle {r : Registry σ} (h : r.Descends) {ts : List Target}
    {x y : Resolution} {s s' : σ} {path : List String} (hx : x.inProgress = []) :
    ¬ r.Walk ts x s (.error (.cycle path)) y s' := by
  intro hwalk
  refine h.no_closedPath path (hwalk.closedPath ?_)
  rw [hx]
  exact .nil ts

/-- Every call of every resolver follows a walk, and a walk that goes around a cycle reports the
cycle.  A resolver that was made of plugins that can be used, and then given others any number of
times, has no walk around a cycle. -/
theorem Resolver.walks_and_cycles :
    (∀ (e : Resolver σ) (x : Resolution) (s : σ), x.inProgress = [] →
      e.registry.Follows (fun _ _ => True) (e.asked x.request) x s (e.resolveIn x s) ∧
      (∀ id, e.registry.Follows (Registry.ReadsDefinition id) [.definition id] x s
        (e.registry.resolveDefinition id x s)) ∧
      ∀ id, e.registry.Follows (Registry.ReadsConnector id) [.connector id] x s
        (e.registry.resolveConnector id x s)) ∧
    (∀ (e : Resolver σ) (request : Request) (s : σ),
      e.FindsPrincipal request s (e.resolvePrincipal request s)) ∧
    (∀ (r : Registry σ) (ts : List Target) (x y : Resolution) (s s' : σ) (path : List String),
      x.inProgress = [] → r.Walk ts x s (.error (.cycle path)) y s' →
        (Fault.cycle path).error = .circularDependency (" -> ".intercalate path) ∧
          r.ClosedPath path) ∧
    ∀ (e : Resolver σ) (id : String) (registry : Registry σ) (s₀ s₁ : σ)
      (attempts : List (Registry σ × σ)), registry.Built →
      Resolver.validated id registry s₀ = (.ok e, s₁) →
      (∀ attempt ∈ attempts, attempt.1.Built) →
      ∀ (request : Request) (ts : List Target) (s s' : σ) (path : List String) (y : Resolution),
        ¬ (e.reloaded attempts).registry.Walk ts (.start request) s (.error (.cycle path)) y
          s' := by
  refine ⟨?_, ?_, ?_, ?_⟩
  · intro e x s hx
    exact ⟨e.resolveIn_follows s hx, fun id => e.registry.resolveDefinition_follows id s hx,
      fun id => e.registry.resolveConnector_follows id s hx⟩
  · intro e request s
    exact e.resolvePrincipal_finds request s
  · intro r ts x y s s' path hx hwalk
    refine ⟨rfl, hwalk.closedPath ?_⟩
    rw [hx]
    exact .nil ts
  · intro e id registry s₀ s₁ attempts hbuilt hvalidated hattempts request ts s s' path y
    have hdescends := Resolver.descends_of_validated hbuilt hvalidated
    exact (Resolver.reloaded_descends hdescends hattempts).no_cycle rfl

/-! ## A failover that leads back -/

namespace Registry

/-- A definition that needs a connector, which fails. -/
def mail : Definition Unit :=
  { id := "mail", dependencies := ["directory"], dependencyOnly := false,
    resolve := fun _ _ s => (.ok (.empty "mail"), s), check := fun s => (.ok (), s) }

def directory (failover : Option String) : Connector Unit :=
  { id := "directory", dependencies := [], failover,
    resolve := fun _ _ s => (.error (.directory "unreachable"), s), check := fun s => (.ok (), s) }

/-- What the connector fails over to needs the definition. -/
def replica : Connector Unit :=
  { id := "replica", dependencies := ["mail"], failover := none,
    resolve := fun _ _ s => (.ok [], s), check := fun s => (.ok (), s) }

def straight : Registry Unit := ⟨[directory none], [mail], []⟩

def roundabout : Registry Unit := ⟨[directory (some "replica"), replica], [mail], []⟩

theorem straight_built : straight.Built :=
  .definition (d := mail) (.connector (c := directory none) .empty rfl) rfl

theorem roundabout_built : roundabout.Built :=
  .definition (d := mail)
    (.connector (c := replica) (.connector (c := directory (some "replica")) .empty rfl) rfl) rfl

theorem roundabout_walk : ∃ y, roundabout.Walk [.definition "mail"] (.start .empty) ()
    (.error (.cycle ["mail", "directory", "replica", "mail"])) y () := by
  apply Exists.intro
  apply Walk.dependency rfl rfl (by decide)
  apply Walk.failover rfl rfl (by decide) .nil rfl rfl
  apply Walk.dependency rfl rfl (by decide)
  exact .cycle (t := .definition "mail") rfl rfl (by decide)

end Registry

theorem Resolver.walks_and_cycles_roundabout :
    Registry.roundabout.ClosedPath ["mail", "directory", "replica", "mail"] ∧
    Resolver.validated "resolver" Registry.straight () =
      (.ok ⟨"resolver", Registry.straight⟩, ()) ∧
    ∀ (request : Request) (ts : List Target) (path : List String) (y : Resolution),
      ¬ (reloaded ⟨"resolver", Registry.straight⟩ [(Registry.roundabout, ())]).registry.Walk ts
        (.start request) () (.error (.cycle path)) y () := by
  obtain ⟨_, _, hcycle, hvalidated⟩ := Resolver.walks_and_cycles (σ := Unit)
  have hmade : Resolver.validated "resolver" Registry.straight () =
      (.ok ⟨"resolver", Registry.straight⟩, ()) := rfl
  have hattempts : ∀ attempt ∈ [(Registry.roundabout, ())], attempt.1.Built := by
    intro attempt hattempt
    rw [List.mem_singleton.mp hattempt]
    exact Registry.roundabout_built
  obtain ⟨y, hwalk⟩ := Registry.roundabout_walk
  refine ⟨(hcycle _ _ _ _ _ _ _ rfl hwalk).2, hmade, ?_⟩
  intro request ts path y
  exact hvalidated _ _ _ _ _ _ Registry.straight_built hmade hattempts request ts () () path y

end AttributeRelease
