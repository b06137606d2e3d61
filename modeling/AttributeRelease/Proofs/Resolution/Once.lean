import AttributeRelease.Proofs.Resolution.Calls
import AttributeRelease.Proofs.Resolution.Trace
import Mathlib.Data.List.Nodup

/-!
# Plugins are invoked once

While a walk lasts, the plugins in its log are those that have a result and some of those in
progress.  So none is invoked twice, and each is invoked when what it depends on has results.
-/

namespace AttributeRelease

variable {σ : Type}

theorem loggedIds_append (log : List Invocation) (i : Invocation) :
    loggedIds (log ++ [i]) = loggedIds log ++ [i.target.id] := by
  rw [loggedIds, List.map_append]
  rfl

theorem mem_loggedIds {log : List Invocation} {i : Invocation} (h : i ∈ log) :
    i.target.id ∈ loggedIds log := List.mem_map_of_mem h

theorem Memo.contains_of_get? {m : Memo} {id : String} {a : Resolved} (h : m.get? id = some a) :
    m.contains id = true := by
  rw [contains, h]
  rfl

theorem Memo.contains_of_result? {m : Memo} {t : Target} (h : (m.result? t).isSome) :
    m.contains t.id = true := by
  obtain ⟨a, hresult⟩ := Option.isSome_iff_exists.mp h
  exact contains_of_get? (get?_of_result? hresult).1

/-- What holds of all plugins that have results holds of them after one more has a result. -/
theorem Memo.forall_contains_put {m : Memo} {P : String → Prop} {id : String} (hid : P id)
    (h : ∀ other, m.contains other = true → P other) (a : Resolved) :
    ∀ other, (m.put id a).contains other = true → P other := by
  intro other hother
  rw [contains_put, Bool.or_eq_true, beq_iff_eq] at hother
  rcases hother with rfl | hold
  · exact hid
  · exact h other hold

theorem Memo.contains_put_of_contains {m : Memo} {id other : String} (h : m.contains other = true)
    (a : Resolved) : (m.put id a).contains other = true := by
  rw [contains_put, h, Bool.or_true]

namespace Registry

/-- No plugin was invoked twice, and each when its dependencies had results. -/
structure Orderly (r : Registry σ) (log : List Invocation) : Prop where
  nodup : (loggedIds log).Nodup
  ready : ∀ i ∈ log, (r.work? i.target).isSome ∧
    ∀ d ∈ r.dependenciesOf i.target, r.contains d = true → i.memo.contains d = true

/-- What holds of a resolution and of the log while walks last. -/
structure Tidy (r : Registry σ) (x : Resolution) (log : List Invocation) : Prop
    extends r.Orderly log where
  typed : ∀ id a, x.memo.get? id = some a → ∃ t, r.target? id = some t ∧ a.Suits t
  recorded : ∀ id, x.memo.contains id = true → id ∈ loggedIds log
  accounted : ∀ id ∈ loggedIds log, x.memo.contains id = true ∨ id ∈ x.inProgress
  pending : ∀ id ∈ x.inProgress, x.memo.contains id = false
  closed : ∀ i ∈ log, x.memo.contains i.target.id = true →
    (∀ d ∈ r.dependenciesOf i.target, r.contains d = true → x.memo.contains d = true) ∧
      (i.failed = true → ∀ other, r.failoverOf i.target = some other →
        x.memo.contains other = true)

theorem Tidy.start (r : Registry σ) (request : Request) : r.Tidy (.start request) [] where
  nodup := List.nodup_nil
  ready _ hi := absurd hi List.not_mem_nil
  typed _ _ h := by cases h
  recorded _ h := by cases h
  accounted _ h := absurd h List.not_mem_nil
  pending _ h := absurd h List.not_mem_nil
  closed _ hi := absurd hi List.not_mem_nil

namespace Tidy

variable {r : Registry σ} {x y z : Resolution} {log : List Invocation} {t : Target}

/-- A plugin whose result is not in the memo has none of any kind there. -/
theorem fresh (h : r.Tidy x log) (ht : r.target? t.id = some t)
    (hfresh : x.memo.result? t = none) : x.memo.contains t.id = false := by
  cases hget : x.memo.get? t.id with
  | none =>
      rw [Memo.contains, hget]
      rfl
  | some a =>
      obtain ⟨u, hu, hsuits⟩ := h.typed t.id a hget
      rw [ht] at hu
      cases hu
      rw [Memo.result?_of_suits hget hsuits] at hfresh
      cases hfresh

theorem push (h : r.Tidy x log) {id : String} (hid : x.memo.contains id = false) :
    r.Tidy (x.push id) log where
  toOrderly := h.toOrderly
  typed := h.typed
  recorded := h.recorded
  accounted other hother := (h.accounted other hother).imp_right (List.mem_cons_of_mem id)
  pending other hother := by
    rcases List.mem_cons.mp hother with rfl | hmem
    · exact hid
    · exact h.pending other hmem
  closed := h.closed

/-- A plugin in progress is invoked. -/
theorem invoke (h : r.Tidy y log) (ht : (r.work? t).isSome) (hin : t.id ∈ y.inProgress)
    (hnew : t.id ∉ loggedIds log)
    (hready : ∀ d ∈ r.dependenciesOf t, r.contains d = true → y.memo.contains d = true)
    (failed : Bool) : r.Tidy y (log ++ [⟨t, y.memo, failed⟩]) where
  nodup := by
    rw [loggedIds_append]
    refine List.nodup_append.mpr ⟨h.nodup, List.pairwise_singleton _ _, ?_⟩
    intro id hid other hother heq
    rw [List.mem_singleton] at hother
    exact hnew (hother ▸ heq ▸ hid)
  ready i hi := by
    rcases List.mem_append.mp hi with hold | hlast
    · exact h.ready i hold
    · rw [List.mem_singleton.mp hlast]
      exact ⟨ht, hready⟩
  typed := h.typed
  recorded id hid := by
    rw [loggedIds_append]
    exact List.mem_append_left _ (h.recorded id hid)
  accounted id hid := by
    rw [loggedIds_append] at hid
    rcases List.mem_append.mp hid with hold | hlast
    · exact h.accounted id hold
    · rw [List.mem_singleton.mp hlast]
      exact .inr hin
  pending := h.pending
  closed i hi hcontains := by
    rcases List.mem_append.mp hi with hold | hlast
    · exact h.closed i hold hcontains
    · rw [List.mem_singleton.mp hlast] at hcontains
      rw [h.pending t.id hin] at hcontains
      cases hcontains

/-- A plugin that was invoked is left, and given a result. -/
theorem record (h : r.Tidy z log) {inProgress : List String}
    (hin : z.inProgress = t.id :: inProgress) (free : t.id ∉ inProgress)
    (ht : r.target? t.id = some t) {a : Resolved} (ha : a.Suits t) {i : Invocation} (hi : i ∈ log)
    (hit : i.target = t)
    (hdependencies : ∀ d ∈ r.dependenciesOf t, r.contains d = true → z.memo.contains d = true)
    (hfailover : i.failed = true → ∀ other, r.failoverOf t = some other →
      z.memo.contains other = true) : r.Tidy ((z.leave t.id).record t.id a) log := by
  have hmemo : ((z.leave t.id).record t.id a).memo = z.memo.put t.id a := rfl
  have hleft : ((z.leave t.id).record t.id a).inProgress = inProgress := by
    rw [Resolution.record, Resolution.leave, hin]
    exact List.erase_cons_head t.id inProgress
  refine { toOrderly := h.toOrderly, typed := ?_, recorded := ?_, accounted := ?_, pending := ?_,
           closed := ?_ }
  · intro id b hget
    rw [hmemo] at hget
    by_cases heq : t.id = id
    · subst heq
      rw [Memo.get?_put_self] at hget
      cases hget
      exact ⟨t, ht, ha⟩
    · rw [Memo.get?_put_of_ne _ heq] at hget
      exact h.typed id b hget
  · rw [hmemo]
    exact Memo.forall_contains_put (hit ▸ mem_loggedIds hi) h.recorded a
  · intro id hid
    rw [hmemo, hleft]
    rcases h.accounted id hid with hcontains | hmem
    · exact .inl (Memo.contains_put_of_contains hcontains a)
    · rw [hin] at hmem
      rcases List.mem_cons.mp hmem with rfl | hmem
      · exact .inl (Memo.contains_of_get? (Memo.get?_put_self _ _ _))
      · exact .inr hmem
  · intro id hid
    rw [hleft] at hid
    rw [hmemo, Memo.contains_put, Bool.or_eq_false_iff, beq_eq_false_iff_ne]
    refine ⟨fun heq => free (heq ▸ hid), h.pending id ?_⟩
    rw [hin]
    exact List.mem_cons_of_mem t.id hid
  · intro j hj hcontains
    rw [hmemo]
    by_cases heq : j.target.id = i.target.id
    · have hji : j = i := List.inj_on_of_nodup_map h.nodup hj hi heq
      subst hji
      rw [hit]
      constructor
      · intro d hd hregistered
        exact Memo.contains_put_of_contains (hdependencies d hd hregistered) a
      · intro hfailed other hother
        exact Memo.contains_put_of_contains (hfailover hfailed other hother) a
    · rw [hmemo, Memo.contains_put, Bool.or_eq_true, beq_iff_eq] at hcontains
      rw [hit] at heq
      obtain ⟨hdeps, hother⟩ := h.closed j hj (hcontains.resolve_left heq)
      constructor
      · intro d hd hregistered
        exact Memo.contains_put_of_contains (hdeps d hd hregistered) a
      · intro hfailed other hsome
        exact Memo.contains_put_of_contains (hother hfailed other hsome) a

end Tidy

/-! ## Walks -/

/-- What a walk leaves behind that no fault ended. -/
structure After (r : Registry σ) (ts : List Target) (x : Resolution) (log : List Invocation)
    (y : Resolution) (log' : List Invocation) : Prop where
  tidy : r.Tidy y log'
  results : ∀ t ∈ ts, (r.work? t).isSome → y.memo.contains t.id = true
  kept : ∀ id, x.memo.contains id = true → y.memo.contains id = true
  grown : ∀ i ∈ log, i ∈ log'
  held : ∀ id ∈ x.inProgress, id ∈ loggedIds log' → id ∈ loggedIds log

namespace After

variable {r : Registry σ} {ts rest : List Target} {t : Target} {x y z : Resolution}
  {log log' log'' : List Invocation}

theorem nil (h : r.Tidy x log) : r.After [] x log x log where
  tidy := h
  results _ ht := absurd ht List.not_mem_nil
  kept _ h := h
  grown _ h := h
  held _ _ h := h

/-- A plugin that has its result keeps it while the walk goes on. -/
theorem cons (h : r.After rest y log' z log'')
    (ht : (r.work? t).isSome → y.memo.contains t.id = true)
    (kept : ∀ id, x.memo.contains id = true → y.memo.contains id = true)
    (grown : ∀ i ∈ log, i ∈ log')
    (held : ∀ id ∈ x.inProgress, id ∈ loggedIds log' → id ∈ loggedIds log)
    (hin : y.inProgress = x.inProgress) : r.After (t :: rest) x log z log'' where
  tidy := h.tidy
  results u hu hwork := by
    rcases List.mem_cons.mp hu with rfl | hmem
    · exact h.kept _ (ht hwork)
    · exact h.results u hmem hwork
  kept id hid := h.kept id (kept id hid)
  grown i hi := h.grown i (grown i hi)
  held id hid hlogged := held id hid (h.held id (hin ▸ hid) hlogged)

theorem dependencies {ids : List String} (h : r.After (r.targets ids) x log y log') :
    ∀ d ∈ ids, r.contains d = true → y.memo.contains d = true := by
  intro d hd hregistered
  rw [← isSome_target?] at hregistered
  obtain ⟨u, htarget⟩ := Option.isSome_iff_exists.mp hregistered
  have hcontains := h.results u (mem_targets.mpr ⟨d, hd, htarget⟩) (work?_of_target? htarget)
  rw [id_of_target? htarget] at hcontains
  exact hcontains

end After

/-- What is left behind once a plugin was entered, its dependencies were resolved, and it was
invoked. -/
structure Invoked (r : Registry σ) (x : Resolution) (log : List Invocation) (y : Resolution)
    (log' : List Invocation) (i : Invocation) : Prop where
  tidy : r.Tidy y log'
  logged : i ∈ log'
  ready : ∀ d ∈ r.dependenciesOf i.target, r.contains d = true → y.memo.contains d = true
  kept : ∀ id, x.memo.contains id = true → y.memo.contains id = true
  grown : ∀ j ∈ log, j ∈ log'
  held : ∀ id ∈ x.inProgress, id ∈ loggedIds log' → id ∈ loggedIds log
  inProgress : y.inProgress = i.target.id :: x.inProgress

variable {r : Registry σ} {t : Target} {x y z v : Resolution}
  {log log' log'' : List Invocation}

theorem Tidy.invoked (hx : r.Tidy x log) (ht : (r.work? t).isSome)
    (hnone : x.memo.contains t.id = false) (free : t.id ∉ x.inProgress)
    (hafter : r.After (r.targets (r.dependenciesOf t)) (x.push t.id) log y log')
    (hin : y.inProgress = t.id :: x.inProgress) (failed : Bool) :
    r.Invoked x log y (log' ++ [⟨t, y.memo, failed⟩]) ⟨t, y.memo, failed⟩ := by
  have hnew : t.id ∉ loggedIds log' := fun hlogged => by
    rcases hx.accounted t.id (hafter.held t.id List.mem_cons_self hlogged) with hyes | hmem
    · rw [hnone] at hyes
      cases hyes
    · exact free hmem
  refine ⟨?_, List.mem_append_right _ List.mem_cons_self, hafter.dependencies, hafter.kept,
    fun j hj => List.mem_append_left _ (hafter.grown j hj), ?_, hin⟩
  · exact hafter.tidy.invoke ht (hin ▸ List.mem_cons_self) hnew hafter.dependencies failed
  · intro id hid hlogged
    rw [loggedIds_append] at hlogged
    rcases List.mem_append.mp hlogged with hold | hlast
    · exact hafter.held id (List.mem_cons_of_mem t.id hid) hold
    · exact absurd hid (List.mem_singleton.mp hlast ▸ free)

/-- Once its dependencies have been resolved, a plugin that was entered is invoked. -/
theorem Tidy.enter (hbuilt : r.Built) {w : Work (Logged σ)} {s s₁ s₂ : Logged σ}
    (hx : r.Tidy x s.1) (fresh : x.memo.result? t = none) (work : r.traced.work? t = some w)
    (free : t.id ∉ x.inProgress)
    (hafter : r.Tidy (x.push t.id) s.1 →
      r.After (r.traced.targets w.dependencies) (x.push t.id) s.1 y s₁.1)
    (hin : y.inProgress = t.id :: x.inProgress) {result : Except ResolutionError Resolved}
    (hresult : w.resolve y.request y.memo s₁ = (result, s₂)) :
    r.Invoked x s.1 y s₂.1 ⟨t, y.memo, !result.isOk⟩ := by
  obtain ⟨hwork, hdependencies, _, hlogs⟩ := tracedWork work
  have hnone := hx.fresh (hbuilt.target?_eq hwork) fresh
  rw [targets_traced, hdependencies] at hafter
  rw [hlogs hresult]
  exact hx.invoked hwork hnone free (hafter (hx.push hnone)) hin _

/-- The failover of a plugin that was invoked has been resolved. -/
theorem Invoked.failover {i : Invocation} (h : r.Invoked x log y log' i) {other : String}
    (hafter : r.After [.connector other] y log' z log'') (hin : z.inProgress = y.inProgress) :
    r.Invoked x log z log'' i where
  tidy := hafter.tidy
  logged := hafter.grown i h.logged
  ready d hd hregistered := hafter.kept d (h.ready d hd hregistered)
  kept id hid := hafter.kept id (h.kept id hid)
  grown j hj := hafter.grown j (h.grown j hj)
  held id hid hlogged := by
    refine h.held id hid (hafter.held id ?_ hlogged)
    rw [h.inProgress]
    exact List.mem_cons_of_mem _ hid
  inProgress := hin.trans h.inProgress

/-- The walk goes on with the result of a plugin that was invoked. -/
theorem Invoked.next {i : Invocation} (h : r.Invoked x log y log' i) {rest : List Target}
    {a : Resolved}
    (hafter : r.After rest ((y.leave i.target.id).record i.target.id a) log' z log'') :
    r.After (i.target :: rest) x log z log'' := by
  refine hafter.cons ?_ ?_ h.grown h.held ?_
  · exact fun _ => Memo.contains_of_get? (Memo.get?_put_self _ _ _)
  · exact fun id hid => Memo.contains_put_of_contains (h.kept id hid) a
  · exact Resolution.leave_inProgress h.inProgress

/-- The log stays orderly however a walk ends.  The induction is on the walk; that a plugin in
progress has no result is what keeps it from being invoked again. -/
theorem Walk.orderly (hbuilt : r.Built) {ts : List Target} {s s' : Logged σ}
    {out : Except Fault Unit} (h : r.traced.Walk ts x s out y s') (hx : r.Tidy x s.1) :
    r.Orderly s'.1 ∧ (out = .ok () → r.After ts x s.1 y s'.1) := by
  induction h with
  | nil => exact ⟨hx.toOrderly, fun _ => .nil hx⟩
  | known result _ ih =>
      obtain ⟨horderly, hafter⟩ := ih hx
      refine ⟨horderly, fun hout => (hafter hout).cons (fun _ => ?_) (fun _ h => h) (fun _ h => h)
        (fun _ _ h => h) rfl⟩
      exact Memo.contains_of_result? result
  | absent _ none _ ih =>
      obtain ⟨horderly, hafter⟩ := ih hx
      refine ⟨horderly, fun hout => (hafter hout).cons (fun hwork => ?_) (fun _ h => h)
        (fun _ h => h) (fun _ _ h => h) rfl⟩
      rw [← isSome_work?_traced, none] at hwork
      cases hwork
  | unknown _ _ => exact ⟨hx.toOrderly, fun hout => by cases hout⟩
  | cycle _ _ _ => exact ⟨hx.toOrderly, fun hout => by cases hout⟩
  | dependency fresh work _ _ ih =>
      have hnone := hx.fresh (hbuilt.target?_eq (tracedWork work).registered) fresh
      exact ⟨(ih (hx.push hnone)).1, fun hout => by cases hout⟩
  | @own t _ _ _ _ _ _ _ _ _ _ _ fresh work free dependencies resolved _ ih ihNext =>
      have htarget := hbuilt.target?_eq (tracedWork work).registered
      have hinvoked := hx.enter hbuilt fresh work free (fun hpush => (ih hpush).2 rfl)
        dependencies.frame.2 resolved
      have hrecorded := hinvoked.tidy.record hinvoked.inProgress free htarget
        (suits_of_resolve work resolved) hinvoked.logged rfl hinvoked.ready
        fun hfailed => by cases hfailed
      obtain ⟨horderly, hnext⟩ := ihNext hrecorded
      exact ⟨horderly, fun hout => hinvoked.next (hnext hout)⟩
  | failed fresh work free dependencies failed _ ih =>
      have hinvoked := hx.enter hbuilt fresh work free (fun hpush => (ih hpush).2 rfl)
        dependencies.frame.2 failed
      exact ⟨hinvoked.tidy.toOrderly, fun hout => by cases hout⟩
  | failover fresh work free dependencies failed _ _ ih ihInstead =>
      have hinvoked := hx.enter hbuilt fresh work free (fun hpush => (ih hpush).2 rfl)
        dependencies.frame.2 failed
      exact ⟨(ihInstead hinvoked.tidy).1, fun hout => by cases hout⟩
  | @replaced t _ _ _ _ _ _ _ _ _ _ _ _ other a _ fresh work free dependencies failed other_eq
      instead result _ ih ihInstead ihNext =>
      have htarget := hbuilt.target?_eq (tracedWork work).registered
      have hinvoked := hx.enter hbuilt fresh work free (fun hpush => (ih hpush).2 rfl)
        dependencies.frame.2 failed
      have hinstead := hinvoked.failover ((ihInstead hinvoked.tidy).2 rfl) instead.frame.2
      have hsuits : a.Suits t := by
        rw [connector_of_failover work other_eq]
        have hother := (Memo.get?_of_result? result).2
        cases a <;> exact hother
      have hrecorded := hinstead.tidy.record hinstead.inProgress free htarget hsuits
        hinstead.logged rfl hinstead.ready fun _ next hnext => by
          rw [← (tracedWork work).failover, other_eq] at hnext
          cases hnext
          exact Memo.contains_of_result? (t := .connector other) (by rw [result]; rfl)
      obtain ⟨horderly, hnext⟩ := ihNext hrecorded
      exact ⟨horderly, fun hout => hinstead.next (hnext hout)⟩

end Registry

end AttributeRelease
