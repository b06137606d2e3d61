import AttributeRelease.Proofs.Resolution.Walk
import AttributeRelease.Resolver

/-!
# Room for a walk

The steps of a resolver follow walks.  They are given room for as many plugins in progress as there
are plugins; no plugin is in progress twice, so the room never runs out, and no step ever answers
that it did.
-/

namespace AttributeRelease

variable {σ α : Type}

theorem Memo.connector?_put_self (m : Memo) (id : String) (c : Sourced) :
    (m.put id (.connector c)).connector? id = some c := by
  rw [connector?, get?_put_self]

theorem Memo.definition?_put_self (m : Memo) (id : String) (a : Attribute) :
    (m.put id (.definition a)).definition? id = some a := by
  rw [definition?, get?_put_self]

namespace Registry

open Resolution (Step during discard each)

/-- An answer that follows a walk: the error of the fault that ended the walk, or else something
that was read off the memo after it. -/
inductive Follows (r : Registry σ) (read : Memo → α → Prop) (ts : List Target) (x : Resolution)
    (s : σ) : Except ResolutionError α × Resolution × σ → Prop
  | ok {a : α} {y : Resolution} {s' : σ} (walk : r.Walk ts x s (.ok ()) y s')
      (value : read y.memo a) : Follows r read ts x s (.ok a, y, s')
  | error {f : Fault} {y : Resolution} {s' : σ} (walk : r.Walk ts x s (.error f) y s') :
      Follows r read ts x s (.error f.error, y, s')

/-- With these plugins in progress, there is room for whatever can still be entered. -/
structure Fits (r : Registry σ) (room : Nat) (inProgress : List String) : Prop where
  nodup : inProgress.Nodup
  registered : ∀ id ∈ inProgress, r.contains id = true
  enough : r.size < room + inProgress.length

namespace Fits

variable {r : Registry σ} {room : Nat} {inProgress : List String}

/-- The room never runs out. -/
theorem pos (h : r.Fits room inProgress) : 0 < room := by
  have hlength := length_le_size h.nodup h.registered
  have henough := h.enough
  omega

theorem exists_succ (h : r.Fits room inProgress) : ∃ left, room = left + 1 :=
  Nat.exists_eq_add_one.mpr h.pos

theorem enter (h : r.Fits (room + 1) inProgress) {t : Target} (free : t.id ∉ inProgress)
    (ht : (r.work? t).isSome) : r.Fits room (t.id :: inProgress) where
  nodup := List.nodup_cons.mpr ⟨free, h.nodup⟩
  registered id hid := by
    rcases List.mem_cons.mp hid with rfl | hmem
    · exact contains_id_of_work? ht
    · exact h.registered id hmem
  enough := by
    have henough := h.enough
    rw [List.length_cons]
    omega

theorem mono (h : r.Fits room inProgress) {more : Nat} (hle : room ≤ more) :
    r.Fits more inProgress where
  nodup := h.nodup
  registered := h.registered
  enough := Nat.lt_of_lt_of_le h.enough (Nat.add_le_add_right hle _)

/-- For a resolution at rest, the room that steps are given is enough. -/
theorem atRest (r : Registry σ) : r.Fits (r.size + 1) [] where
  nodup := List.nodup_nil
  registered _ hid := absurd hid List.not_mem_nil
  enough := Nat.lt_succ_self _

end Fits

/-- Steps that follow walks through what their ids stand for. -/
def StepsFollow (r : Registry σ) (room : Nat) (ts : String → List Target)
    (read : String → Memo → α → Prop) (step : String → Step σ α) : Prop :=
  ∀ id x s, r.Fits room x.inProgress → r.Follows (read id) (ts id) x s (step id x s)

variable {r : Registry σ} {room : Nat}

theorem Follows.inv {read : Memo → α → Prop} {ts : List Target} {x : Resolution} {s : σ}
    {answer : Except ResolutionError α × Resolution × σ} (h : r.Follows read ts x s answer) :
    (∃ a y s', answer = (.ok a, y, s') ∧ r.Walk ts x s (.ok ()) y s' ∧ read y.memo a) ∨
      ∃ f y s', answer = (.error (Fault.error f), y, s') ∧ r.Walk ts x s (.error f) y s' := by
  cases h with
  | ok walk value => exact .inl ⟨_, _, _, rfl, walk, value⟩
  | error walk => exact .inr ⟨_, _, _, rfl, walk⟩

theorem Follows.discard {read : Memo → α → Prop} {ts : List Target} {x : Resolution} {s : σ}
    {step : Step σ α} (h : r.Follows read ts x s (step x s)) :
    r.Follows (fun _ _ => True) ts x s (discard step x s) := by
  rw [Resolution.discard]
  rcases h.inv with ⟨a, y, s', heq, walk, _⟩ | ⟨f, y, s', heq, walk⟩
  · rw [heq]
    exact .ok walk trivial
  · rw [heq]
    exact .error walk

/-- Step by step, a list of steps follows one walk. -/
theorem each_follows {read : String → Memo → α → Prop} {ts : String → List Target}
    {step : String → Step σ α} (hstep : r.StepsFollow room ts read step) (ids : List String)
    {x : Resolution} {s : σ} (hx : r.Fits room x.inProgress) :
    r.Follows (fun _ _ => True) (ids.flatMap ts) x s (each step ids x s) := by
  induction ids generalizing x s with
  | nil => exact .ok .nil trivial
  | cons id rest ih =>
      rw [each, List.flatMap_cons]
      rcases (hstep id x s hx).inv with ⟨a, y, s', heq, walk, _⟩ | ⟨f, y, s', heq, walk⟩
      · simp only [heq]
        rcases (ih (s := s') (walk.frame.2 ▸ hx)).inv with
          ⟨more, z, s'', hmore, next, _⟩ | ⟨f, z, s'', hmore, next⟩
        · simp only [hmore]
          exact .ok (walk.append next) trivial
        · simp only [hmore]
          exact .error (walk.append next)
      · simp only [heq]
        exact .error (walk.append_error _)

theorem targets_eq_flatMap (ids : List String) :
    r.targets ids = ids.flatMap fun id => (r.target? id).toList := by
  rw [targets, List.filterMap_eq_flatMap_toList]

/-! ## One plugin -/

/-- What a step for a connector reads. -/
def ReadsConnector (id : String) (m : Memo) (c : Sourced) : Prop := m.connector? id = some c

/-- What a step for a definition reads. -/
def ReadsDefinition (id : String) (m : Memo) (a : Option Attribute) : Prop := m.definition? id = a

/-- Steps for the plugins that another one depends on. -/
def VisitsFollow (r : Registry σ) (room : Nat) (visit : String → Step σ Unit) : Prop :=
  r.StepsFollow room (fun id => (r.target? id).toList) (fun _ _ _ => True) visit

def ConnectorsFollow (r : Registry σ) (room : Nat) (connector : String → Step σ Sourced) : Prop :=
  r.StepsFollow room (fun id => [.connector id]) ReadsConnector connector

def DefinitionsFollow (r : Registry σ) (room : Nat)
    (definition : String → Step σ (Option Attribute)) : Prop :=
  r.StepsFollow room (fun id => [.definition id]) ReadsDefinition definition

section Steps

variable {visit : String → Step σ Unit} {connector : String → Step σ Sourced}
  {definition : String → Step σ (Option Attribute)}

theorem visit_follows (hconnector : r.ConnectorsFollow room connector)
    (hdefinition : r.DefinitionsFollow room definition) :
    r.VisitsFollow room (r.visit connector definition) := by
  intro id x s hx
  change r.Follows _ (r.target? id).toList x s _
  rw [Registry.visit]
  split
  · next hc =>
      rw [target?, if_pos hc]
      exact (hconnector id x s hx).discard
  · next hc =>
      split
      · next hd =>
          rw [target?, if_neg hc, if_pos hd]
          exact (hdefinition id x s hx).discard
      · next hd =>
          rw [target?, if_neg hc, if_neg hd]
          exact .ok .nil trivial

theorem dependencies_follow (hvisit : r.VisitsFollow room visit) (dependencies : List String)
    {x : Resolution} (s : σ) (hx : r.Fits room x.inProgress) :
    r.Follows (fun _ _ => True) (r.targets dependencies) x s (each visit dependencies x s) := by
  rw [targets_eq_flatMap]
  exact each_follows hvisit dependencies hx

/-- A connector that is entered follows a walk, as far as that goes before its result is kept. -/
theorem connectorStep_follows (hvisit : r.VisitsFollow room visit)
    (hconnector : r.ConnectorsFollow room connector) :
    r.ConnectorsFollow (room + 1) (r.connectorStep visit connector) := by
  intro id x s hx
  rw [connectorStep]
  cases hmemo : x.memo.connector? id with
  | some c => exact .ok (.known (by rw [Memo.result?, hmemo]; rfl) .nil) hmemo
  | none =>
      have fresh : x.memo.result? (.connector id) = none := by rw [Memo.result?, hmemo]; rfl
      cases hc : r.connector? id with
      | none => exact .error (.unknown fresh (by rw [work?, hc]; rfl))
      | some c =>
          have work := work?_connector hc
          by_cases hin : id ∈ x.inProgress
          · simp only [during, Resolution.enter_of_mem hin]
            exact .error (.cycle fresh work hin)
          · simp only [during, Resolution.enter_of_not_mem hin, withFailover]
            have hpush := hx.enter (t := .connector id) hin (by rw [work]; rfl)
            rcases (dependencies_follow (x := x.push id) hvisit c.dependencies s hpush).inv with
              ⟨_, y, s₁, heq, walk, _⟩ | ⟨f, y, s₁, heq, walk⟩
            · simp only [heq]
              cases hown : c.resolve y.request y.memo s₁ with
              | mk result s₂ =>
                  cases result with
                  | ok attributes =>
                      exact .ok (.own fresh work hin walk (Connector.work_resolve hown) .nil)
                        (Memo.connector?_put_self _ _ _)
                  | error e =>
                      have failed : c.work.resolve y.request y.memo s₁ = (.error e, s₂) :=
                        Connector.work_resolve hown
                      cases hfailover : c.failover with
                      | none => exact .error (.failed fresh work hin walk failed hfailover)
                      | some other =>
                          rcases (hconnector other y s₂ (walk.frame.2 ▸ hpush)).inv with
                            ⟨a, z, s₃, hother, instead, value⟩ | ⟨f, z, s₃, hother, instead⟩
                          · simp only [hother]
                            exact .ok (.replaced fresh work hin walk failed hfailover instead
                              (Memo.result?_connector.mpr value) .nil)
                              (Memo.connector?_put_self _ _ _)
                          · simp only [hother]
                            exact .error (.failover fresh work hin walk failed hfailover instead)
            · simp only [heq]
              exact .error (.dependency fresh work hin walk)

theorem definitionStep_follows (hvisit : r.VisitsFollow room visit) :
    r.DefinitionsFollow (room + 1) (r.definitionStep visit) := by
  intro id x s hx
  rw [definitionStep]
  cases hmemo : x.memo.definition? id with
  | some a => exact .ok (.known (by rw [Memo.result?, hmemo]; rfl) .nil) hmemo
  | none =>
      have fresh : x.memo.result? (.definition id) = none := by rw [Memo.result?, hmemo]; rfl
      cases hd : r.definition? id with
      | none => exact .ok (.absent fresh (by rw [work?, hd]; rfl) .nil) hmemo
      | some d =>
          have work := work?_definition hd
          by_cases hin : id ∈ x.inProgress
          · simp only [during, Resolution.enter_of_mem hin]
            exact .error (.cycle fresh work hin)
          · simp only [during, Resolution.enter_of_not_mem hin, withDependencies]
            have hpush := hx.enter (t := .definition id) hin (by rw [work]; rfl)
            rcases (dependencies_follow (x := x.push id) hvisit d.dependencies s hpush).inv with
              ⟨_, y, s₁, heq, walk, _⟩ | ⟨f, y, s₁, heq, walk⟩
            · simp only [heq]
              cases hown : d.resolve y.request y.memo s₁ with
              | mk result s₂ =>
                  cases result with
                  | ok a =>
                      simp only [hown]
                      exact .ok (.own fresh work hin walk (Definition.work_resolve hown) .nil)
                        (Memo.definition?_put_self _ _ _)
                  | error e =>
                      simp only [hown]
                      exact .error (.failed fresh work hin walk
                        (Definition.work_resolve hown) rfl)
            · simp only [heq]
              exact .error (.dependency fresh work hin walk)

end Steps

/-! ## All plugins -/

/-- The induction is on the room: what lies one plugin deeper has one less. -/
theorem within_follow (r : Registry σ) (room : Nat) :
    r.ConnectorsFollow room (r.connectorWithin room) ∧
      r.DefinitionsFollow room (r.definitionWithin room) := by
  induction room with
  | zero =>
      constructor
      · intro id x s hx
        exact absurd hx.pos (Nat.lt_irrefl 0)
      · intro id x s hx
        exact absurd hx.pos (Nat.lt_irrefl 0)
  | succ room ih =>
      have hvisit := visit_follows ih.1 ih.2
      constructor
      · have hstep := connectorStep_follows hvisit ih.1
        intro id x s hx
        rw [connectorWithin]
        exact hstep id x s hx
      · have hstep := definitionStep_follows hvisit
        intro id x s hx
        rw [definitionWithin]
        exact hstep id x s hx

theorem resolveConnector_follows (r : Registry σ) (id : String) {x : Resolution} (s : σ)
    (hx : x.inProgress = []) :
    r.Follows (ReadsConnector id) [.connector id] x s (r.resolveConnector id x s) :=
  (r.within_follow (r.size + 1)).1 id x s (hx ▸ .atRest r)

theorem resolveDefinition_follows (r : Registry σ) (id : String) {x : Resolution} (s : σ)
    (hx : x.inProgress = []) :
    r.Follows (ReadsDefinition id) [.definition id] x s (r.resolveDefinition id x s) :=
  (r.within_follow (r.size + 1)).2 id x s (hx ▸ .atRest r)

theorem resolveDependencies_within (r : Registry σ) (dependencies : List String)
    {x : Resolution} (s : σ) (hx : r.Fits (r.size + 1) x.inProgress) :
    r.Follows (fun _ _ => True) (r.targets dependencies) x s
      (r.resolveDependencies dependencies x s) := by
  obtain ⟨hconnector, hdefinition⟩ := r.within_follow (r.size + 1)
  exact (dependencies_follow (visit_follows hconnector hdefinition) dependencies s hx).discard

theorem resolveDependencies_follows (r : Registry σ) (dependencies : List String)
    {x : Resolution} (s : σ) (hx : x.inProgress = []) :
    r.Follows (fun _ _ => True) (r.targets dependencies) x s
      (r.resolveDependencies dependencies x s) :=
  r.resolveDependencies_within dependencies s (hx ▸ .atRest r)

end Registry

end AttributeRelease
