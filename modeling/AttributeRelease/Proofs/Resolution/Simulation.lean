import AttributeRelease.Resolver
import Mathlib.Data.List.Forall2

/-!
# Resolutions in worlds that are alike

Two registries whose plugins answer alike, each in a world of its own, resolve every request alike.
What the plugins are, and what makes two worlds alike, is left open: a world with a log is like the
same world without one, and worlds with the same templates are alike for plugins that look at
nothing else.
-/

namespace AttributeRelease

variable {σ τ α : Type}

/-- Operations with the same result from worlds that are alike, which they leave alike. -/
def Corresponds (alike : σ → τ → Prop) (act : σ → α × σ) (act' : τ → α × τ) : Prop :=
  ∀ s t, alike s t → ∃ result s' t', act s = (result, s') ∧ act' t = (result, t') ∧ alike s' t'

structure Connector.Corresponds (alike : σ → τ → Prop) (c : Connector σ) (c' : Connector τ) :
    Prop where
  id : c.id = c'.id
  dependencies : c.dependencies = c'.dependencies
  failover : c.failover = c'.failover
  resolve : ∀ request m,
    AttributeRelease.Corresponds alike (c.resolve request m) (c'.resolve request m)

structure Definition.Corresponds (alike : σ → τ → Prop) (d : Definition σ) (d' : Definition τ) :
    Prop where
  id : d.id = d'.id
  dependencies : d.dependencies = d'.dependencies
  dependencyOnly : d.dependencyOnly = d'.dependencyOnly
  resolve : ∀ request m,
    AttributeRelease.Corresponds alike (d.resolve request m) (d'.resolve request m)

/-- Registries with corresponding plugins, in the same order.  Principal connectors have no part in
the resolution of attributes. -/
structure Registry.Corresponds (alike : σ → τ → Prop) (r : Registry σ) (r' : Registry τ) :
    Prop where
  connectors : List.Forall₂ (Connector.Corresponds alike) r.connectors r'.connectors
  definitions : List.Forall₂ (Definition.Corresponds alike) r.definitions r'.definitions

/-- The first items that pass a test, where related items pass it alike. -/
theorem find?_forall₂ {β γ : Type} {rel : β → γ → Prop} {test : β → Bool} {test' : γ → Bool}
    {l : List β} {l' : List γ} (h : List.Forall₂ rel l l')
    (htest : ∀ b c, rel b c → test b = test' c) :
    (l.find? test = none ∧ l'.find? test' = none) ∨
      ∃ b c, l.find? test = some b ∧ l'.find? test' = some c ∧ rel b c := by
  induction h with
  | nil => exact .inl ⟨rfl, rfl⟩
  | @cons b c l l' hbc _ ih =>
      rw [List.find?_cons, List.find?_cons, ← htest b c hbc]
      cases test b with
      | true => exact .inr ⟨b, c, rfl, rfl, hbc⟩
      | false => exact ih

namespace Registry.Corresponds

variable {alike : σ → τ → Prop} {r : Registry σ} {r' : Registry τ}

theorem connector? (h : r.Corresponds alike r') (id : String) :
    (r.connector? id = none ∧ r'.connector? id = none) ∨
      ∃ c c', r.connector? id = some c ∧ r'.connector? id = some c' ∧ c.Corresponds alike c' :=
  find?_forall₂ h.connectors fun c c' hc => by rw [hc.id]

theorem definition? (h : r.Corresponds alike r') (id : String) :
    (r.definition? id = none ∧ r'.definition? id = none) ∨
      ∃ d d', r.definition? id = some d ∧ r'.definition? id = some d' ∧ d.Corresponds alike d' :=
  find?_forall₂ h.definitions fun d d' hd => by rw [hd.id]

theorem isSome_connector? (h : r.Corresponds alike r') (id : String) :
    (r.connector? id).isSome = (r'.connector? id).isSome := by
  rcases h.connector? id with ⟨hnone, hnone'⟩ | ⟨c, c', hc, hc', -⟩
  · rw [hnone, hnone']
    rfl
  · rw [hc, hc']
    rfl

theorem isSome_definition? (h : r.Corresponds alike r') (id : String) :
    (r.definition? id).isSome = (r'.definition? id).isSome := by
  rcases h.definition? id with ⟨hnone, hnone'⟩ | ⟨d, d', hd, hd', -⟩
  · rw [hnone, hnone']
    rfl
  · rw [hd, hd']
    rfl

theorem size (h : r.Corresponds alike r') : r.size = r'.size := by
  rw [Registry.size, Registry.size, h.connectors.length_eq, h.definitions.length_eq]

theorem definitionIds (h : r.Corresponds alike r') : r.definitionIds = r'.definitionIds := by
  have hids : List.Forall₂ (· = ·) r.definitionIds r'.definitionIds :=
    List.forall₂_map_left_iff.mpr (List.forall₂_map_right_iff.mpr
      (h.definitions.imp fun _ _ hd => hd.id))
  rwa [List.forall₂_eq_eq_eq] at hids

end Registry.Corresponds

/-! ## Steps -/

namespace Resolution

/-- Steps that correspond for every state of a resolution. -/
def Corresponds (alike : σ → τ → Prop) (step : Step σ α) (step' : Step τ α) : Prop :=
  ∀ x s t, alike s t → ∃ result y s' t',
    step x s = (result, y, s') ∧ step' x t = (result, y, t') ∧ alike s' t'

namespace Corresponds

variable {alike : σ → τ → Prop}

theorem discard {step : Step σ α} {step' : Step τ α} (h : Corresponds alike step step') :
    Corresponds alike (discard step) (Resolution.discard step') := by
  intro x s t hst
  obtain ⟨result, y, s', t', hstep, hstep', hst'⟩ := h x s t hst
  simp only [Resolution.discard, hstep, hstep']
  cases result with
  | error e => exact ⟨_, _, _, _, rfl, rfl, hst'⟩
  | ok a => exact ⟨_, _, _, _, rfl, rfl, hst'⟩

theorem during {step : Step σ α} {step' : Step τ α} (h : Corresponds alike step step')
    (id : String) : Corresponds alike (during id step) (Resolution.during id step') := by
  intro x s t hst
  simp only [Resolution.during]
  cases x.enter id with
  | error e => exact ⟨_, _, _, _, rfl, rfl, hst⟩
  | ok y =>
      obtain ⟨result, z, s', t', hstep, hstep', hst'⟩ := h y s t hst
      simp only [hstep, hstep']
      exact ⟨_, _, _, _, rfl, rfl, hst'⟩

theorem each {step : String → Step σ α} {step' : String → Step τ α}
    (h : ∀ id, Corresponds alike (step id) (step' id)) (ids : List String) :
    Corresponds alike (each step ids) (Resolution.each step' ids) := by
  induction ids with
  | nil => exact fun x s t hst => ⟨_, _, _, _, rfl, rfl, hst⟩
  | cons id rest ih =>
      intro x s t hst
      obtain ⟨result, y, s', t', hstep, hstep', hst'⟩ := h id x s t hst
      simp only [Resolution.each, hstep, hstep']
      cases result with
      | error e => exact ⟨_, _, _, _, rfl, rfl, hst'⟩
      | ok a =>
          obtain ⟨more, z, s'', t'', hmore, hmore', hst''⟩ := ih y s' t' hst'
          simp only [hmore, hmore']
          cases more with
          | error e => exact ⟨_, _, _, _, rfl, rfl, hst''⟩
          | ok more => exact ⟨_, _, _, _, rfl, rfl, hst''⟩

end Corresponds

end Resolution

namespace Registry

open Resolution (Step during discard each)

section Steps

variable {alike : σ → τ → Prop} {r : Registry σ} {r' : Registry τ}
  {visit : String → Step σ Unit} {visit' : String → Step τ Unit}
  {connector : String → Step σ Sourced} {connector' : String → Step τ Sourced}
  {definition : String → Step σ (Option Attribute)}
  {definition' : String → Step τ (Option Attribute)}

theorem visit_corresponds (h : r.Corresponds alike r')
    (hconnector : ∀ id, Resolution.Corresponds alike (connector id) (connector' id))
    (hdefinition : ∀ id, Resolution.Corresponds alike (definition id) (definition' id))
    (id : String) :
    Resolution.Corresponds alike (r.visit connector definition id)
      (r'.visit connector' definition' id) := by
  rw [Registry.visit, Registry.visit, h.isSome_connector?, h.isSome_definition?]
  split
  · exact (hconnector id).discard
  · split
    · exact (hdefinition id).discard
    · exact fun x s t hst => ⟨_, _, _, _, rfl, rfl, hst⟩

theorem withFailover_corresponds
    (hvisit : ∀ id, Resolution.Corresponds alike (visit id) (visit' id))
    (hconnector : ∀ id, Resolution.Corresponds alike (connector id) (connector' id))
    {c : Connector σ} {c' : Connector τ} (hc : c.Corresponds alike c') :
    Resolution.Corresponds alike (withFailover visit connector c)
      (withFailover visit' connector' c') := by
  intro x s t hst
  obtain ⟨result, y, s', t', heach, heach', hst'⟩ :=
    Resolution.Corresponds.each hvisit c.dependencies x s t hst
  simp only [withFailover, ← hc.dependencies, ← hc.failover, ← hc.id, heach, heach']
  cases result with
  | error e => exact ⟨_, _, _, _, rfl, rfl, hst'⟩
  | ok _ =>
      obtain ⟨own, s'', t'', hown, hown', hst''⟩ := hc.resolve y.request y.memo s' t' hst'
      simp only [hown, hown']
      cases own with
      | ok attributes => exact ⟨_, _, _, _, rfl, rfl, hst''⟩
      | error e =>
          cases c.failover with
          | none => exact ⟨_, _, _, _, rfl, rfl, hst''⟩
          | some other => exact hconnector other y s'' t'' hst''

theorem connectorStep_corresponds (h : r.Corresponds alike r')
    (hvisit : ∀ id, Resolution.Corresponds alike (visit id) (visit' id))
    (hconnector : ∀ id, Resolution.Corresponds alike (connector id) (connector' id))
    (id : String) :
    Resolution.Corresponds alike (r.connectorStep visit connector id)
      (r'.connectorStep visit' connector' id) := by
  intro x s t hst
  simp only [connectorStep]
  cases x.memo.connector? id with
  | some result => exact ⟨_, _, _, _, rfl, rfl, hst⟩
  | none =>
      rcases h.connector? id with ⟨hnone, hnone'⟩ | ⟨c, c', hsome, hsome', hc⟩
      · rw [hnone, hnone']
        exact ⟨_, _, _, _, rfl, rfl, hst⟩
      · rw [hsome, hsome']
        obtain ⟨result, y, s', t', hstep, hstep', hst'⟩ :=
          (withFailover_corresponds hvisit hconnector hc).during id x s t hst
        simp only [hstep, hstep']
        cases result with
        | error e => exact ⟨_, _, _, _, rfl, rfl, hst'⟩
        | ok a => exact ⟨_, _, _, _, rfl, rfl, hst'⟩

theorem withDependencies_corresponds
    (hvisit : ∀ id, Resolution.Corresponds alike (visit id) (visit' id)) {d : Definition σ}
    {d' : Definition τ} (hd : d.Corresponds alike d') :
    Resolution.Corresponds alike (withDependencies visit d) (withDependencies visit' d') := by
  intro x s t hst
  obtain ⟨result, y, s', t', heach, heach', hst'⟩ :=
    Resolution.Corresponds.each hvisit d.dependencies x s t hst
  simp only [withDependencies, ← hd.dependencies, heach, heach']
  cases result with
  | error e => exact ⟨_, _, _, _, rfl, rfl, hst'⟩
  | ok _ =>
      obtain ⟨own, s'', t'', hown, hown', hst''⟩ := hd.resolve y.request y.memo s' t' hst'
      simp only [hown, hown']
      exact ⟨_, _, _, _, rfl, rfl, hst''⟩

theorem definitionStep_corresponds (h : r.Corresponds alike r')
    (hvisit : ∀ id, Resolution.Corresponds alike (visit id) (visit' id)) (id : String) :
    Resolution.Corresponds alike (r.definitionStep visit id) (r'.definitionStep visit' id) := by
  intro x s t hst
  simp only [definitionStep]
  cases x.memo.definition? id with
  | some result => exact ⟨_, _, _, _, rfl, rfl, hst⟩
  | none =>
      rcases h.definition? id with ⟨hnone, hnone'⟩ | ⟨d, d', hsome, hsome', hd⟩
      · rw [hnone, hnone']
        exact ⟨_, _, _, _, rfl, rfl, hst⟩
      · rw [hsome, hsome']
        obtain ⟨result, y, s', t', hstep, hstep', hst'⟩ :=
          (withDependencies_corresponds hvisit hd).during id x s t hst
        simp only [hstep, hstep']
        cases result with
        | error e => exact ⟨_, _, _, _, rfl, rfl, hst'⟩
        | ok a => exact ⟨_, _, _, _, rfl, rfl, hst'⟩

theorem within_corresponds (h : r.Corresponds alike r') (room : Nat) :
    (∀ id, Resolution.Corresponds alike (r.connectorWithin room id)
        (r'.connectorWithin room id)) ∧
      ∀ id, Resolution.Corresponds alike (r.definitionWithin room id)
        (r'.definitionWithin room id) := by
  induction room with
  | zero =>
      constructor
      · exact fun id x s t hst => ⟨_, _, _, _, rfl, rfl, hst⟩
      · exact fun id x s t hst => ⟨_, _, _, _, rfl, rfl, hst⟩
  | succ room ih =>
      have hvisit := visit_corresponds h ih.1 ih.2
      constructor
      · intro id
        rw [connectorWithin, connectorWithin]
        exact connectorStep_corresponds h hvisit ih.1 id
      · intro id
        rw [definitionWithin, definitionWithin]
        exact definitionStep_corresponds h hvisit id

theorem resolveDefinition_corresponds (h : r.Corresponds alike r') (id : String) :
    Resolution.Corresponds alike (r.resolveDefinition id) (r'.resolveDefinition id) := by
  rw [resolveDefinition, resolveDefinition, ← h.size]
  exact (within_corresponds h _).2 id

end Steps

end Registry

/-! ## Requests -/

namespace Resolver

variable {alike : σ → τ → Prop} {e : Resolver σ} {e' : Resolver τ}

theorem isDependencyOnly_corresponds (h : e.registry.Corresponds alike e'.registry)
    (id : String) : e.isDependencyOnly id = e'.isDependencyOnly id := by
  rw [isDependencyOnly, isDependencyOnly]
  rcases h.definition? id with ⟨hnone, hnone'⟩ | ⟨d, d', hsome, hsome', hd⟩
  · rw [hnone, hnone']
    rfl
  · rw [hsome, hsome', Option.any_some, Option.any_some, hd.dependencyOnly]

theorem requested_corresponds (h : e.registry.Corresponds alike e'.registry)
    (request : Request) : e.requested request = e'.requested request := by
  rw [requested, requested, h.definitionIds]

/-- Resolvers with corresponding plugins resolve a request alike. -/
theorem resolveIn_corresponds (h : e.registry.Corresponds alike e'.registry) :
    Resolution.Corresponds alike e.resolveIn e'.resolveIn := by
  intro x s t hst
  have hempty : e.registry.definitions.isEmpty = e'.registry.definitions.isEmpty := by
    rw [← List.isEmpty_map (f := Definition.id), ← List.isEmpty_map (f := Definition.id)]
    exact congrArg List.isEmpty h.definitionIds
  have hrequested := requested_corresponds h x.request
  have houtcome : ∀ resolved, e.outcome resolved = e'.outcome resolved := by
    intro resolved
    simp only [outcome, isDependencyOnly_corresponds h]
  simp only [resolveIn, ← hempty, ← hrequested, ← houtcome]
  split
  · exact ⟨_, _, _, _, rfl, rfl, hst⟩
  · obtain ⟨result, y, s', t', heach, heach', hst'⟩ := Resolution.Corresponds.each
      (Registry.resolveDefinition_corresponds h) (e.requested x.request) x s t hst
    simp only [heach, heach']
    cases result with
    | error e => exact ⟨_, _, _, _, rfl, rfl, hst'⟩
    | ok resolved => exact ⟨_, _, _, _, rfl, rfl, hst'⟩

theorem resolve_corresponds (h : e.registry.Corresponds alike e'.registry) (request : Request) :
    AttributeRelease.Corresponds alike (e.resolve request) (e'.resolve request) := by
  intro s t hst
  obtain ⟨result, y, s', t', hresolve, hresolve', hst'⟩ :=
    resolveIn_corresponds h (.start request) s t hst
  simp only [resolve, hresolve, hresolve']
  exact ⟨_, _, _, rfl, rfl, hst'⟩

end Resolver

end AttributeRelease
