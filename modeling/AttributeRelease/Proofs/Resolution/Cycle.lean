import AttributeRelease.Proofs.Resolution.Walk
import Mathlib.Data.List.Chain

/-!
# Cycles that walks report

While plugins are in progress, each is a declared dependency or the failover of the one that was
entered before it.  So a walk that meets a plugin in progress has gone around a cycle, and the path
that it reports is that cycle.
-/

namespace AttributeRelease

variable {σ : Type}

namespace Registry

/-- One plugin names another one, as a dependency or as its failover. -/
def Links (r : Registry σ) (a b : String) : Prop :=
  (∃ c ∈ r.connectors, c.id = a ∧ (b ∈ c.dependencies ∨ c.failover = some b)) ∨
    ∃ d ∈ r.definitions, d.id = a ∧ b ∈ d.dependencies

/-- A path along links of plugins that ends where it starts. -/
structure ClosedPath (r : Registry σ) (path : List String) : Prop where
  returns : ∃ id between, path = id :: between ++ [id]
  registered : ∀ id ∈ path, r.contains id = true
  linked : path.IsChain r.Links

theorem links_of_work {r : Registry σ} {t : Target} {w : Work σ} (hw : r.work? t = some w)
    {b : String} (h : b ∈ w.dependencies ∨ w.failover = some b) : r.Links t.id b := by
  cases t with
  | connector id =>
      obtain ⟨c, hc, rfl⟩ := Option.map_eq_some_iff.mp hw
      have hid : c.id = id := by simpa using List.find?_some hc
      exact .inl ⟨c, List.mem_of_find?_eq_some hc, hid, h⟩
  | definition id =>
      obtain ⟨d, hd, rfl⟩ := Option.map_eq_some_iff.mp hw
      have hid : d.id = id := by simpa using List.find?_some hd
      refine .inr ⟨d, List.mem_of_find?_eq_some hd, hid, ?_⟩
      rcases h with hdep | hfailover
      · exact hdep
      · cases hfailover

/-- What is in progress, the innermost first, and what is to be resolved for it. -/
structure Tied (r : Registry σ) (inProgress : List String) (ts : List Target) : Prop where
  registered : ∀ id ∈ inProgress, r.contains id = true
  linked : inProgress.IsChain fun inner outer => r.Links outer inner
  needed : ∀ t ∈ ts, ∀ innermost ∈ inProgress.head?, r.Links innermost t.id

namespace Tied

variable {r : Registry σ} {inProgress : List String} {t : Target} {rest : List Target}

theorem nil (ts : List Target) : r.Tied [] ts where
  registered _ h := absurd h List.not_mem_nil
  linked := .nil
  needed _ _ _ h := by cases h

theorem tail (h : r.Tied inProgress (t :: rest)) : r.Tied inProgress rest where
  registered := h.registered
  linked := h.linked
  needed u hu := h.needed u (List.mem_cons_of_mem t hu)

/-- What a plugin that is entered names is tied to it. -/
theorem enter (h : r.Tied inProgress (t :: rest)) {w : Work σ} (hw : r.work? t = some w)
    {us : List Target}
    (hus : ∀ u ∈ us, u.id ∈ w.dependencies ∨ w.failover = some u.id) :
    r.Tied (t.id :: inProgress) us where
  registered id hid := by
    rcases List.mem_cons.mp hid with rfl | hmem
    · exact contains_id_of_work? (by rw [hw]; rfl)
    · exact h.registered id hmem
  linked := List.isChain_cons.mpr ⟨h.needed t List.mem_cons_self, h.linked⟩
  needed u hu innermost hinnermost := by
    cases hinnermost
    exact links_of_work hw (hus u hu)

theorem dependencies (h : r.Tied inProgress (t :: rest)) {w : Work σ} (hw : r.work? t = some w) :
    r.Tied (t.id :: inProgress) (r.targets w.dependencies) := by
  refine h.enter hw fun u hu => .inl ?_
  obtain ⟨id, hid, htarget⟩ := mem_targets.mp hu
  rw [id_of_target? htarget]
  exact hid

theorem failover (h : r.Tied inProgress (t :: rest)) {w : Work σ} (hw : r.work? t = some w)
    {other : String} (hother : w.failover = some other) :
    r.Tied (t.id :: inProgress) [.connector other] := by
  refine h.enter hw fun u hu => .inr ?_
  rw [List.mem_singleton.mp hu]
  exact hother

end Tied

/-- A plugin that is in progress when it is needed closes a path. -/
theorem Tied.closedPath {r : Registry σ} {inProgress : List String} {t : Target}
    {rest : List Target} (h : r.Tied inProgress (t :: rest)) (hin : t.id ∈ inProgress) :
    r.ClosedPath (Graph.cycleFrom inProgress.reverse t.id) := by
  obtain ⟨between, hcycle, hsuffix⟩ := Graph.cycleFrom_of_mem (List.mem_reverse.mpr hin)
  have hchain : inProgress.reverse.IsChain r.Links := List.isChain_reverse.mpr h.linked
  rw [hcycle]
  refine ⟨⟨t.id, between, rfl⟩, ?_, ?_⟩
  · intro id hid
    rcases List.mem_append.mp hid with hmem | hmem
    · exact h.registered id (List.mem_reverse.mp (hsuffix.subset hmem))
    · rw [List.mem_singleton.mp hmem]
      exact h.registered t.id hin
  · refine List.isChain_append.mpr ⟨hchain.suffix hsuffix, .singleton _, ?_⟩
    -- the last id before the end is that of the innermost plugin
    intro last hlast id hid
    cases hid
    apply h.needed t List.mem_cons_self
    obtain ⟨before, happend⟩ := hsuffix
    have hgetLast : inProgress.reverse.getLast? = some last := by
      rw [← happend, List.getLast?_append, Option.mem_def.mp hlast]
      rfl
    rw [List.getLast?_reverse] at hgetLast
    exact hgetLast

/-- The path of a cycle that a walk reports is a closed path. -/
theorem Walk.closedPath {r : Registry σ} {ts : List Target} {x y : Resolution} {s s' : σ}
    {path : List String} (h : r.Walk ts x s (.error (.cycle path)) y s')
    (htied : r.Tied x.inProgress ts) : r.ClosedPath path := by
  generalize hout : (Except.error (.cycle path) : Except Fault Unit) = out at h
  induction h with
  | known _ _ ih => exact ih htied.tail hout
  | absent _ _ _ ih => exact ih htied.tail hout
  | cycle _ _ entered =>
      cases hout
      exact htied.closedPath entered
  | dependency _ work _ _ ih => exact ih (htied.dependencies work) hout
  | @own t _ _ _ y _ _ _ _ _ _ _ _ _ _ dependencies _ _ _ ihNext =>
      refine ihNext ?_ hout
      change r.Tied (y.leave t.id).inProgress _
      rw [Resolution.leave_inProgress dependencies.frame.2]
      exact htied.tail
  | failover _ work _ dependencies _ other_eq _ _ ihInstead =>
      refine ihInstead ?_ hout
      rw [dependencies.frame.2]
      exact htied.failover work other_eq
  | @replaced t _ _ _ _ z _ _ _ _ _ _ _ _ _ _ _ _ _ dependencies _ _ instead _ _ _ _ ihNext =>
      refine ihNext ?_ hout
      change r.Tied (z.leave t.id).inProgress _
      rw [Resolution.leave_inProgress (instead.frame.2.trans dependencies.frame.2)]
      exact htied.tail
  | _ => cases hout

end Registry

end AttributeRelease
