import AttributeRelease.Proofs.Resolution.Room
import AttributeRelease.Proofs.Resolution.Yield

/-!
# Evaluation without a memo

What comes of a plugin when everything that it needs is resolved anew for it, as often as it is
needed.  Where a plugin yields a result, this is what comes of it, whatever is in progress that
needs it.
-/

namespace AttributeRelease

variable {σ : Type}

/-- What comes of a plugin that there is none of. -/
def Target.missing : Target → Except Fault (Option Resolved)
  | .connector id => .error (.unknown id)
  | .definition _ => .ok none

/-- The results of plugins by their ids, up to the first fault. -/
def gather (step : Target → Except Fault (Option Resolved)) :
    List Target → Except Fault (List (String × Resolved))
  | [] => .ok []
  | t :: rest =>
    match step t with
    | .error f => .error f
    | .ok none => gather step rest
    | .ok (some a) =>
      match gather step rest with
      | .error f => .error f
      | .ok entries => .ok ((t.id, a) :: entries)

namespace Registry

/-- What comes of a plugin without a memo, with room for so many plugins in progress. -/
def evaluate (r : Registry σ) (request : Request) (s : σ) :
    Nat → List String → Target → Except Fault (Option Resolved)
  | 0, _, t => .error (.plugin t (.internal "no room for a plugin"))
  | room + 1, inProgress, t =>
    match r.work? t with
    | none => t.missing
    | some w =>
      if t.id ∈ inProgress then .error (.cycle (Graph.cycleFrom inProgress.reverse t.id))
      else
        match gather (evaluate r request s room (t.id :: inProgress))
            (r.targets w.dependencies) with
        | .error f => .error f
        | .ok entries =>
          match (w.resolve request ⟨entries⟩ s).1, w.failover with
          | .ok a, _ => .ok (some a)
          | .error e, none => .error (.plugin t e)
          | .error _, some other =>
            evaluate r request s room (t.id :: inProgress) (.connector other)

end Registry

/-! ## Gathering -/

theorem gather_error_cons {step : Target → Except Fault (Option Resolved)} {t : Target}
    {rest : List Target} {f : Fault} {a : Option Resolved} (h : step t = .ok a)
    (hrest : gather step rest = .error f) : gather step (t :: rest) = .error f := by
  rw [gather, h]
  cases a with
  | none => exact hrest
  | some a =>
      simp only [hrest]

theorem gather_error_head {step : Target → Except Fault (Option Resolved)} {t : Target}
    {f : Fault} (h : step t = .error f) (rest : List Target) :
    gather step (t :: rest) = .error f := by
  rw [gather, h]

theorem gather_singleton_error {step : Target → Except Fault (Option Resolved)} {t : Target}
    {f : Fault} (h : gather step [t] = .error f) : step t = .error f := by
  rw [gather] at h
  cases hstep : step t with
  | error f' =>
      rw [hstep] at h
      cases h
      rfl
  | ok a =>
      rw [hstep] at h
      cases a <;> cases h

theorem gather_ok {step : Target → Except Fault (Option Resolved)} (value : String → Resolved)
    {ts : List Target} (h : ∀ t ∈ ts, step t = .ok (some (value t.id))) :
    gather step ts = .ok (ts.map fun t => (t.id, value t.id)) := by
  induction ts with
  | nil => rfl
  | cons t rest ih =>
      have hrest := ih fun u hu => h u (List.mem_cons_of_mem t hu)
      rw [gather, h t List.mem_cons_self]
      simp only [hrest, List.map_cons]

theorem lookup_map_target {ts : List Target} (value : String → Resolved) (id : String) :
    (ts.map fun t => (t.id, value t.id)).lookup id =
      if id ∈ ts.map Target.id then some (value id) else none := by
  induction ts with
  | nil => rfl
  | cons t rest ih =>
      rw [List.map_cons, List.lookup_cons, ih, List.map_cons]
      by_cases heq : id = t.id
      · simp [heq]
      · have hne : (id == t.id) = false := beq_eq_false_iff_ne.mpr heq
        simp [hne, heq]

namespace Registry

variable {r : Registry σ} {request : Request}

theorem mem_ids_targets {ids : List String} {id : String} (h : id ∈ ids) :
    id ∈ (r.targets ids).map Target.id ↔ (r.target? id).isSome := by
  rw [List.mem_map]
  constructor
  · rintro ⟨t, ht, rfl⟩
    obtain ⟨other, _, htarget⟩ := mem_targets.mp ht
    rw [id_of_target? htarget, htarget]
    rfl
  · intro hsome
    obtain ⟨t, htarget⟩ := Option.isSome_iff_exists.mp hsome
    exact ⟨t, mem_targets.mpr ⟨id, h, htarget⟩, id_of_target? htarget⟩

/-- Where all dependencies come to what they yield, the plugin is supplied with it. -/
theorem gather_supplied {w : Work σ} {value : String → Resolved}
    {step : Target → Except Fault (Option Resolved)}
    (dependencies : ∀ d ∈ w.dependencies, ∀ u, r.target? d = some u →
      r.Yields request u (value d))
    (hstep : ∀ d ∈ w.dependencies, ∀ u, r.target? d = some u → step u = .ok (some (value d))) :
    ∃ entries, gather step (r.targets w.dependencies) = .ok entries ∧
      r.Supplied request w ⟨entries⟩ value := by
  refine ⟨_, gather_ok value ?_, dependencies, ?_⟩
  · intro u hu
    obtain ⟨d, hd, htarget⟩ := mem_targets.mp hu
    rw [id_of_target? htarget]
    exact hstep d hd u htarget
  · intro d hd
    change List.lookup d _ = _
    simp only [lookup_map_target, mem_ids_targets hd]
    cases r.target? d <;> rfl

/-! ## Evaluation of what yields a result -/

/-- Every plugin in progress needs a plugin. -/
def Awaited (r : Registry σ) (request : Request) (inProgress : List String) (t : Target) : Prop :=
  ∀ id ∈ inProgress, ∃ u, r.target? id = some u ∧ Relation.TransGen (r.Needs request) u t

theorem Awaited.nil (t : Target) : r.Awaited request [] t := fun _ h => absurd h List.not_mem_nil

/-- What is needed by a plugin that is entered is awaited by all that is then in progress. -/
theorem Awaited.enter (hbuilt : r.Built) {inProgress : List String} {t u : Target}
    (h : r.Awaited request inProgress t) (ht : (r.work? t).isSome) (hneeds : r.Needs request t u) :
    r.Awaited request (t.id :: inProgress) u := by
  intro id hid
  rcases List.mem_cons.mp hid with rfl | hmem
  · exact ⟨t, hbuilt.target?_eq ht, .single hneeds⟩
  · obtain ⟨v, htarget, hpath⟩ := h id hmem
    exact ⟨v, htarget, hpath.tail hneeds⟩

/-- A plugin that yields a result is not in progress while something waits for it. -/
theorem Awaited.not_mem (hbuilt : r.Built) (hdet : r.Deterministic) {inProgress : List String}
    {t : Target} {a : Resolved} (h : r.Awaited request inProgress t)
    (hyields : r.Yields request t a) : t.id ∉ inProgress := by
  intro hmem
  obtain ⟨u, htarget, hpath⟩ := h t.id hmem
  rw [hbuilt.target?_eq hyields.work] at htarget
  cases htarget
  exact hyields.not_needs_self hdet hpath

/-- A plugin whose dependencies come to what they yield does what it does on any memo that supplies
it, and gives way to its failover where it fails. -/
theorem evaluate_supplied (hdet : r.Deterministic) {t : Target} {w : Work σ}
    (work : r.work? t = some w) {m : Memo} {value : String → Resolved}
    (hsupplied : r.Supplied request w m value) (s : σ) {room : Nat} {inProgress : List String}
    (free : t.id ∉ inProgress)
    (hstep : ∀ d ∈ w.dependencies, ∀ u, r.target? d = some u →
      r.evaluate request s room (t.id :: inProgress) u = .ok (some (value d))) (s₁ : σ) :
    r.evaluate request s (room + 1) inProgress t =
      match (w.resolve request m s₁).1, w.failover with
      | .ok a, _ => .ok (some a)
      | .error e, none => .error (.plugin t e)
      | .error _, some other =>
        r.evaluate request s room (t.id :: inProgress) (.connector other) := by
  obtain ⟨entries, hgather, hentries⟩ := gather_supplied hsupplied.dependencies hstep
  have hsame : (w.resolve request m s₁).1 = (w.resolve request ⟨entries⟩ s).1 :=
    hdet.work work (hsupplied.agree hdet hentries) s₁ s
  rw [evaluate, work]
  simp only [if_neg free, hgather, hsame]

/-- Evaluation comes to what a plugin yields.  The induction is on how it yields it. -/
theorem Yields.evaluate_eq (hbuilt : r.Built) (hdet : r.Deterministic) {t : Target}
    {a : Resolved} (h : r.Yields request t a) (s : σ) {room : Nat} {inProgress : List String}
    (hroom : r.Fits room inProgress) (hawaited : r.Awaited request inProgress t) :
    r.evaluate request s room inProgress t = .ok (some a) := by
  induction h generalizing room inProgress with
  | @own t w m s₁ s₂ a value work dependencies memo resolved ih =>
      have ht := Option.isSome_of_eq_some work
      have free := hawaited.not_mem hbuilt hdet (.own work dependencies memo resolved)
      obtain ⟨room, rfl⟩ := hroom.exists_succ
      have hstep := fun d hd u hu => ih d hd u hu (hroom.enter free ht)
        (hawaited.enter hbuilt ht (.dependency work hd hu))
      rw [evaluate_supplied hdet work ⟨dependencies, memo⟩ s free hstep s₁, resolved]
  | @replaced t w m s₁ s₂ e other a value work dependencies memo failed other_eq instead ih
      ihInstead =>
      have ht := Option.isSome_of_eq_some work
      have free := hawaited.not_mem hbuilt hdet
        (.replaced work dependencies memo failed other_eq instead)
      obtain ⟨room, rfl⟩ := hroom.exists_succ
      have hstep := fun d hd u hu => ih d hd u hu (hroom.enter free ht)
        (hawaited.enter hbuilt ht (.dependency work hd hu))
      rw [evaluate_supplied hdet work ⟨dependencies, memo⟩ s free hstep s₁, failed, other_eq]
      exact ihInstead (hroom.enter free ht) (hawaited.enter hbuilt ht
        (.failover work ⟨dependencies, memo⟩ failed other_eq))

end Registry

end AttributeRelease
