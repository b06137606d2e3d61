import AttributeRelease.Proofs.Resolution.Once

/-!
# Which plugins are invoked

A resolution of attributes that succeeds has invoked the plugins that it required and no others:
the definitions that were asked for, what these depend on, and the failovers of connectors that
failed.
-/

namespace AttributeRelease

variable {σ : Type}

namespace Registry

/-- The plugins that a resolution requires, given the log of it: the least set that has all asked
for, what its members depend on, and the failovers of members that failed. -/
inductive Required (r : Registry σ) (ids : List String) (log : List Invocation) : String → Prop
  | asked {id : String} (asked : id ∈ ids) (registered : (r.definition? id).isSome) :
      Required r ids log id
  | dependency {t : Target} {d : String} (required : Required r ids log t.id)
      (declared : d ∈ r.dependenciesOf t) (registered : r.contains d = true) :
      Required r ids log d
  | failover {i : Invocation} {other : String} (required : Required r ids log i.target.id)
      (invoked : i ∈ log) (failed : i.failed = true)
      (other_eq : r.failoverOf i.target = some other) : Required r ids log other

variable {r : Registry σ}

/-- A walk adds to the log. -/
theorem Walk.log_grows {ts : List Target} {x y : Resolution} {s s' : Logged σ}
    {out : Except Fault Unit} (h : r.traced.Walk ts x s out y s') : ∀ i ∈ s.1, i ∈ s'.1 := by
  induction h with
  | nil => exact fun _ h => h
  | known _ _ ih => exact ih
  | absent _ _ _ ih => exact ih
  | unknown _ _ => exact fun _ h => h
  | cycle _ _ _ => exact fun _ h => h
  | dependency _ _ _ _ ih => exact ih
  | own _ work _ _ resolved _ ih ihNext =>
      intro i hi
      apply ihNext
      exact (tracedWork work).grows resolved i (ih i hi)
  | failed _ work _ _ failed _ ih =>
      intro i hi
      exact (tracedWork work).grows failed i (ih i hi)
  | failover _ work _ _ failed _ _ ih ihInstead =>
      intro i hi
      apply ihInstead
      exact (tracedWork work).grows failed i (ih i hi)
  | replaced _ work _ _ failed _ _ _ _ ih ihInstead ihNext =>
      intro i hi
      apply ihNext
      apply ihInstead
      exact (tracedWork work).grows failed i (ih i hi)

/-- What is required for a plugin that is required. -/
theorem Required.targets {ids : List String} {log : List Invocation} {t : Target}
    (h : r.Required ids log t.id) :
    ∀ u ∈ r.targets (r.dependenciesOf t), r.Required ids log u.id := by
  intro u hu
  obtain ⟨d, hd, htarget⟩ := mem_targets.mp hu
  rw [id_of_target? htarget]
  refine .dependency h hd ?_
  rw [← isSome_target?, htarget]
  rfl

/-- A walk through required plugins gives results to required plugins only. -/
theorem Walk.required {ids : List String} {log : List Invocation} {ts : List Target}
    {x y : Resolution} {s s' : Logged σ} (h : r.traced.Walk ts x s (.ok ()) y s')
    (hlog : ∀ i ∈ s'.1, i ∈ log)
    (hts : ∀ t ∈ ts, (r.work? t).isSome → r.Required ids log t.id)
    (hx : ∀ id, x.memo.contains id = true → r.Required ids log id) :
    ∀ id, y.memo.contains id = true → r.Required ids log id := by
  generalize hout : (Except.ok () : Except Fault Unit) = out at h
  induction h with
  | nil => exact hx
  | known _ _ ih => exact ih hlog (fun u hu => hts u (List.mem_cons_of_mem _ hu)) hx hout
  | absent _ _ _ ih => exact ih hlog (fun u hu => hts u (List.mem_cons_of_mem _ hu)) hx hout
  | @own t w _ x y _ _ s₁ s₂ s' a _ _ work _ _ resolved next ih ihNext =>
      obtain ⟨hwork, hdependencies, _, _⟩ := tracedWork work
      have ht := hts t List.mem_cons_self hwork
      have hlog₂ : ∀ i ∈ s₂.1, i ∈ log := fun i hi => hlog i (next.log_grows i hi)
      have hlog₁ : ∀ i ∈ s₁.1, i ∈ log := fun i hi =>
        hlog₂ i ((tracedWork work).grows resolved i hi)
      rw [targets_traced, hdependencies] at ih
      have hy := ih hlog₁ (fun u hu _ => ht.targets u hu) hx rfl
      exact ihNext hlog (fun u hu => hts u (List.mem_cons_of_mem t hu))
        (Memo.forall_contains_put ht hy a) hout
  | @replaced t w _ x y z _ _ s₁ s₂ s₃ s' e other a _ _ work _ _ failed other_eq instead _ next ih
      ihInstead ihNext =>
      obtain ⟨hwork, hdependencies, hfailover, hlogs⟩ := tracedWork work
      have ht := hts t List.mem_cons_self hwork
      have hlog₃ : ∀ i ∈ s₃.1, i ∈ log := fun i hi => hlog i (next.log_grows i hi)
      have hlog₂ : ∀ i ∈ s₂.1, i ∈ log := fun i hi => hlog₃ i (instead.log_grows i hi)
      have hlog₁ : ∀ i ∈ s₁.1, i ∈ log := fun i hi =>
        hlog₂ i ((tracedWork work).grows failed i hi)
      have hi : ⟨t, y.memo, true⟩ ∈ log := by
        apply hlog₂
        rw [hlogs failed]
        exact List.mem_append_right _ List.mem_cons_self
      rw [targets_traced, hdependencies] at ih
      have hy := ih hlog₁ (fun u hu _ => ht.targets u hu) hx rfl
      have hother : r.Required ids log other :=
        .failover (i := ⟨t, y.memo, true⟩) ht hi rfl (hfailover ▸ other_eq)
      have hz := ihInstead hlog₃ (fun u hu _ => by rw [List.mem_singleton.mp hu]; exact hother)
        hy rfl
      exact ihNext hlog (fun u hu => hts u (List.mem_cons_of_mem t hu))
        (Memo.forall_contains_put ht hz a) hout
  | _ => cases hout

theorem registered_of_declared {t : Target} {d : String} (h : d ∈ r.dependenciesOf t) :
    (r.work? t).isSome := by
  rw [dependenciesOf] at h
  cases hwork : r.work? t with
  | some w => rfl
  | none =>
      rw [hwork] at h
      cases h

/-- When a walk is done, everything that it requires has a result. -/
theorem Required.contained (hbuilt : r.Built) {ids : List String} {x y : Resolution}
    {log log' : List Invocation} (hafter : r.After (ids.map .definition) x log y log')
    {id : String} (h : r.Required ids log' id) : y.memo.contains id = true := by
  induction h with
  | @asked id asked registered =>
      have hwork : (r.work? (.definition id)).isSome := by
        rw [work?, Option.isSome_map]
        exact registered
      exact hafter.results _ (List.mem_map_of_mem asked) hwork
  | @dependency t d _ declared registered ih =>
      obtain ⟨i, hi, hid⟩ := List.mem_map.mp (hafter.tidy.recorded t.id ih)
      have htarget := hbuilt.target?_eq (hafter.tidy.ready i hi).1
      rw [hid, hbuilt.target?_eq (registered_of_declared declared)] at htarget
      cases htarget
      exact (hafter.tidy.closed i hi ih).1 d declared registered
  | @failover i other _ invoked failed other_eq ih =>
      exact (hafter.tidy.closed i invoked ih).2 failed other other_eq

end Registry

theorem Memo.mem_ids {m : Memo} {id : String} : id ∈ m.ids ↔ m.contains id = true := by
  rw [contains, get?, ids, List.mem_map]
  constructor
  · rintro ⟨entry, hentry, rfl⟩
    cases hlookup : m.entries.lookup entry.1 with
    | some a => rfl
    | none =>
        rw [List.lookup_eq_none_iff] at hlookup
        exact absurd (hlookup entry hentry) (by simp)
  · intro h
    obtain ⟨a, hlookup⟩ := Option.isSome_iff_exists.mp h
    obtain ⟨before, after, hentries, _⟩ := List.lookup_eq_some_iff.mp hlookup
    refine ⟨(id, a), ?_, rfl⟩
    rw [hentries]
    exact List.mem_append_right _ List.mem_cons_self

/-- In one resolution of attributes, no plugin is invoked twice, and each only when all plugins that
it depends on have results.  If the resolution succeeds, the plugins that were invoked, and those
that have results, are those that it required. -/
theorem Resolver.resolveIn_once {e : Resolver σ} (hbuilt : e.registry.Built) (request : Request)
    (s : σ) :
    ∃ result y log s',
      e.resolveIn (.start request) s = (result, y, s') ∧
      e.traced.resolveIn (.start request) ([], s) = (result, y, (log, s')) ∧
      (loggedIds log).Nodup ∧
      (∀ i ∈ log, (e.registry.work? i.target).isSome ∧
        ∀ d ∈ e.registry.dependenciesOf i.target, e.registry.contains d = true →
          i.memo.contains d = true) ∧
      ∀ attributes, result = .ok attributes → ∀ id,
        (id ∈ loggedIds log ↔ e.registry.Required (e.requested request) log id) ∧
          (id ∈ y.memo.ids ↔ e.registry.Required (e.requested request) log id) := by
  obtain ⟨log, hlog⟩ := e.resolveIn_erases (.start request) [] s
  rcases hplain : e.resolveIn (.start request) s with ⟨result, y, s'⟩
  rw [hplain] at hlog
  have htidy : e.registry.Tidy (.start request) (([], s) : Logged σ).1 := .start _ request
  have hfollows := e.traced.resolveIn_follows (x := .start request) ([], s) rfl
  rw [hlog] at hfollows
  change e.registry.traced.Follows _ ((e.traced.requested request).map .definition) _ _ _
    at hfollows
  rw [requested_traced] at hfollows
  refine ⟨result, y, log, s', rfl, hlog, ?_⟩
  cases hfollows with
  | error walk =>
      obtain ⟨horderly, _⟩ := walk.orderly hbuilt htidy
      exact ⟨horderly.nodup, horderly.ready, fun attributes hok => by cases hok⟩
  | ok walk _ =>
      obtain ⟨horderly, hafter⟩ := walk.orderly hbuilt htidy
      have hdone := hafter rfl
      refine ⟨horderly.nodup, horderly.ready, fun _ _ id => ?_⟩
      have hasked : ∀ t ∈ (e.requested request).map Target.definition,
          (e.registry.work? t).isSome → e.registry.Required (e.requested request) log t.id := by
        intro t ht hwork
        obtain ⟨id, hid, rfl⟩ := List.mem_map.mp ht
        rw [Registry.work?, Option.isSome_map] at hwork
        exact .asked hid hwork
      have hrequired : y.memo.contains id = true ↔
          e.registry.Required (e.requested request) log id :=
        ⟨walk.required (fun _ h => h) hasked (fun _ h => by cases h) id,
          fun h => h.contained hbuilt hdone⟩
      have hlogged : id ∈ loggedIds log ↔ y.memo.contains id = true := by
        constructor
        · intro h
          refine (hdone.tidy.accounted id h).resolve_right ?_
          rw [walk.frame.2]
          exact List.not_mem_nil
        · exact hdone.tidy.recorded id
      exact ⟨hlogged.trans hrequired, Memo.mem_ids.trans hrequired⟩

/-! ## A connector on two paths -/

/-- A connector that fails. -/
def staff : Connector Unit :=
  { id := "staff", dependencies := [], failover := some "archive",
    resolve := fun _ _ s => (.error (.directory "unreachable"), s), check := fun s => (.ok (), s) }

def archive : Connector Unit := .fixed ⟨⟨"archive", ["absent"]⟩, none⟩ []

/-- The connector that fails is needed twice. -/
def twice : Resolver Unit where
  id := "resolver"
  registry := ⟨[staff, archive],
    [.copied ⟨⟨"mail", ["staff", "archive"]⟩, none, false⟩,
      .copied ⟨⟨"name", ["mail", "staff"]⟩, none, false⟩], []⟩

theorem twice_built : twice.registry.Built :=
  .definition (d := .copied ⟨⟨"name", ["mail", "staff"]⟩, none, false⟩)
    (.definition (d := .copied ⟨⟨"mail", ["staff", "archive"]⟩, none, false⟩)
      (.connector (c := archive) (.connector (c := staff) .empty rfl) rfl) rfl) rfl

theorem resolveIn_once_twice :
    twice.registry.Built ∧
    ∃ y log, twice.traced.resolveIn (.start .empty) ([], ()) = (.ok [], y, (log, ())) ∧
      loggedIds log = ["staff", "archive", "mail", "name"] ∧
      ∀ id, id ∈ loggedIds log ↔ twice.registry.Required ["mail", "name"] log id := by
  obtain ⟨result, y, log, s', hplain, htraced, _, _, hrequired⟩ :=
    Resolver.resolveIn_once twice_built .empty ()
  have hok : result = .ok [] := congrArg Prod.fst hplain.symm
  have hlog : log = (twice.traced.resolveIn (.start .empty) ([], ())).2.2.1 := by rw [htraced]
  refine ⟨twice_built, y, log, ?_, ?_, fun id => (hrequired [] hok id).1⟩
  · rw [htraced, hok]
  · rw [hlog]
    rfl

end AttributeRelease
