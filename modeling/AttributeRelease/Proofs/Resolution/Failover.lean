import AttributeRelease.Proofs.Resolution.Determined
import AttributeRelease.Proofs.Resolution.Sound
import Mathlib.Data.List.Nodup

/-!
# Chains of failovers

A connector that fails hands over to its failover, which may hand over in turn.  A chain ends at a
connector that has a result, which then counts for all of the chain, or at one that stops it.
-/

namespace AttributeRelease

variable {σ : Type}

/-- Connectors are given one result, in place of those that they have. -/
def Memo.share (m : Memo) (ids : List String) (c : Sourced) : Memo :=
  ids.foldr (fun id m => m.put id (.connector c)) m

namespace Registry

/-! ## Chains -/

/-- A registered connector has no result, is entered, and its dependencies are resolved. -/
structure Prepared (r : Registry σ) (id : String) (x : Resolution) (s : σ) (c : Connector σ)
    (y : Resolution) (s' : σ) : Prop where
  fresh : x.memo.connector? id = none
  registered : r.connector? id = some c
  free : id ∉ x.inProgress
  dependencies : r.resolveDependencies c.dependencies (x.push id) s = (.ok (), y, s')

/-- Connectors that fail, each of which hands over to the next one, up to the last one that has its
turn. -/
inductive Handed (r : Registry σ) :
    List String → String → Resolution → σ → String → Resolution → σ → Prop
  | here {id : String} {x : Resolution} {s : σ} : Handed r [] id x s id x s
  | next {ids : List String} {id other last : String} {c : Connector σ} {x y z : Resolution}
      {s s₁ s₂ s' : σ} {e : ResolutionError} (prepared : r.Prepared id x s c y s₁)
      (failed : c.resolve y.request y.memo s₁ = (.error e, s₂)) (other_eq : c.failover = some other)
      (rest : Handed r ids other y s₂ last z s') : Handed r (id :: ids) id x s last z s'

/-- A connector has a result, from before or of its own. -/
inductive Supplies (r : Registry σ) (id : String) (x : Resolution) (s : σ) :
    Sourced → Memo → σ → Prop
  | known {result : Sourced} (known : x.memo.connector? id = some result) :
      Supplies r id x s result x.memo s
  | own {c : Connector σ} {y : Resolution} {s₁ s' : σ} {attributes : AttributeMap}
      (prepared : r.Prepared id x s c y s₁)
      (resolved : c.resolve y.request y.memo s₁ = (.ok attributes, s')) :
      Supplies r id x s ⟨id, attributes⟩ (y.memo.put id (.connector ⟨id, attributes⟩)) s'

/-- A connector has no result, and no failover has its turn. -/
inductive Stops (r : Registry σ) (id : String) (x : Resolution) (s : σ) :
    ResolutionError → Memo → σ → Prop
  | unknown (fresh : x.memo.connector? id = none) (unknown : r.connector? id = none) :
      Stops r id x s (.unknownDataConnector id) x.memo s
  | revisited {c : Connector σ} (fresh : x.memo.connector? id = none)
      (registered : r.connector? id = some c) (again : id ∈ x.inProgress) :
      Stops r id x s
        (.circularDependency (Graph.pathText (Graph.cycleFrom x.inProgress.reverse id))) x.memo s
  | dependency {c : Connector σ} {e : ResolutionError} {y : Resolution} {s' : σ}
      (fresh : x.memo.connector? id = none) (registered : r.connector? id = some c)
      (free : id ∉ x.inProgress)
      (dependency : r.resolveDependencies c.dependencies (x.push id) s = (.error e, y, s')) :
      Stops r id x s e y.memo s'
  | own {c : Connector σ} {e : ResolutionError} {y : Resolution} {s₁ s' : σ}
      (prepared : r.Prepared id x s c y s₁)
      (failed : c.resolve y.request y.memo s₁ = (.error e, s')) (alone : c.failover = none) :
      Stops r id x s e y.memo s'

end Registry

/-! ## Results of connectors -/

namespace Memo

theorem connector?_congr {m m' : Memo} {id : String} (h : m.get? id = m'.get? id) :
    m.connector? id = m'.connector? id := by
  rw [connector?, connector?, h]

/-- The connectors have the result that is shared, and all others what they had. -/
theorem connector?_share (m : Memo) (ids : List String) (c : Sourced) (id : String) :
    (m.share ids c).connector? id = if id ∈ ids then some c else m.connector? id := by
  induction ids with
  | nil => rfl
  | cons first rest ih =>
      change ((m.share rest c).put first (.connector c)).connector? id = _
      by_cases hid : first = id
      · rw [← hid, connector?_put_self, if_pos List.mem_cons_self]
      · rw [connector?_congr (get?_put_of_ne _ hid _), ih]
        simp [Ne.symm hid]

end Memo

namespace Registry

variable {r : Registry σ} {id other last : String} {ids : List String} {x y z : Resolution}
  {s s₁ s' t : σ} {c : Sourced} {e : ResolutionError} {m : Memo} {own : Connector σ}

/-! ## From chains to walks -/

theorem Fits.push (hx : r.Fits (r.size + 1) x.inProgress) (free : id ∉ x.inProgress)
    (h : r.connector? id = some own) : r.Fits (r.size + 1) (x.push id).inProgress :=
  (hx.enter (t := .connector id) free (by rw [work?_connector h]; rfl)).mono (Nat.le_succ _)

/-- Whatever has come into the memo since a plugin was entered, leaving it changes nothing else. -/
theorem Walk.leave_eq {ts : List Target} {out : Except Fault Unit}
    (h : r.Walk ts (x.push id) s out y s') (m : Memo) :
    Resolution.leave ⟨y.request, m, y.inProgress⟩ id = ⟨x.request, m, x.inProgress⟩ := by
  have hleft := Resolution.leave_inProgress h.frame.2
  have hrequest : y.request = x.request := h.frame.1
  rw [← hleft, ← hrequest]
  rfl

namespace Prepared

theorem result? (h : r.Prepared id x s own y s₁) : x.memo.result? (.connector id) = none :=
  Memo.result?_connector_eq_none.mpr h.fresh

theorem work? (h : r.Prepared id x s own y s₁) : r.work? (.connector id) = some own.work :=
  work?_connector h.registered

theorem walk (h : r.Prepared id x s own y s₁) (hx : r.Fits (r.size + 1) x.inProgress) :
    r.Walk (r.targets own.work.dependencies) (x.push id) s (.ok ()) y s₁ :=
  (resolveDependencies_eq_ok_iff (hx.push h.free h.registered)).mp h.dependencies

theorem fits (h : r.Prepared id x s own y s₁) (hx : r.Fits (r.size + 1) x.inProgress) :
    r.Fits (r.size + 1) y.inProgress := by
  rw [(h.walk hx).frame.2]
  exact hx.push h.free h.registered

/-- A connector that a walk enters, and whose dependencies it resolves. -/
theorem of_walk {w : Work σ} (hx : r.Fits (r.size + 1) x.inProgress)
    (fresh : x.memo.result? (.connector id) = none) (work : r.work? (.connector id) = some w)
    (free : id ∉ x.inProgress)
    (dependencies : r.Walk (r.targets w.dependencies) (x.push id) s (.ok ()) y s₁) :
    ∃ own : Connector σ, w = own.work ∧ r.Prepared id x s own y s₁ := by
  obtain ⟨own, registered, rfl⟩ := Option.map_eq_some_iff.mp work
  exact ⟨own, rfl, Memo.result?_connector_eq_none.mp fresh, registered, free,
    (resolveDependencies_eq_ok_iff (hx.push free registered)).mpr dependencies⟩

end Prepared

theorem Supplies.walk (h : r.Supplies id x s c m s') (hx : r.Fits (r.size + 1) x.inProgress) :
    r.Walk [.connector id] x s (.ok ()) ⟨x.request, m, x.inProgress⟩ s' ∧
      m.connector? id = some c := by
  cases h with
  | known known =>
      have hresult := Memo.result?_connector.mpr known
      exact ⟨.known (Option.isSome_of_eq_some hresult) .nil, known⟩
  | @own c y s₁ _ attributes prepared resolved =>
      have walk := prepared.walk hx
      have hid : c.id = id := id_of_connector? prepared.registered
      have hown : r.Walk [.connector id] x s (.ok ())
          ((y.leave id).record id (.connector ⟨c.id, attributes⟩)) s' :=
        .own (t := .connector id) prepared.result? prepared.work? prepared.free walk
          (Connector.work_resolve resolved) .nil
      rw [walk.leave_eq y.memo, hid] at hown
      exact ⟨hown, Memo.connector?_put_self _ _ _⟩

theorem Stops.walk (h : r.Stops id x s e m s') (hx : r.Fits (r.size + 1) x.inProgress) :
    ∃ f : Fault, f.error = e ∧
      r.Walk [.connector id] x s (.error f) ⟨x.request, m, x.inProgress⟩ s' := by
  cases h with
  | unknown fresh unknown =>
      have hunknown : r.work? (.connector id) = none := by rw [work?, unknown]; rfl
      exact ⟨_, rfl, .unknown (Memo.result?_connector_eq_none.mpr fresh) hunknown⟩
  | revisited fresh registered again =>
      exact ⟨_, rfl, .cycle (t := .connector id) (Memo.result?_connector_eq_none.mpr fresh)
        (work?_connector registered) again⟩
  | @dependency _ _ y _ fresh registered free dependency =>
      have hpush := hx.push free registered
      obtain ⟨f, hf, walk⟩ := (resolveDependencies_eq_error_iff hpush).mp dependency
      have hended : r.Walk [.connector id] x s (.error f) (y.leave id) s' :=
        .dependency (t := .connector id) (Memo.result?_connector_eq_none.mpr fresh)
          (work?_connector registered) free walk
      rw [walk.leave_eq y.memo] at hended
      exact ⟨f, hf, hended⟩
  | @own _ _ y _ _ prepared failed alone =>
      have walk := prepared.walk hx
      have hfailed : r.Walk [.connector id] x s (.error (.plugin (.connector id) e))
          (y.leave id) s' :=
        .failed (t := .connector id) prepared.result? prepared.work? prepared.free walk
          (Connector.work_resolve failed) alone
      rw [walk.leave_eq y.memo] at hfailed
      exact ⟨_, rfl, hfailed⟩

/-- The result of the last connector of a chain counts for all of the chain. -/
theorem Handed.walk_ok (h : r.Handed ids id x s last z t)
    (hx : r.Fits (r.size + 1) x.inProgress)
    (hlast : r.Walk [.connector last] z t (.ok ()) ⟨z.request, m, z.inProgress⟩ s')
    (hc : m.connector? last = some c) :
    r.Walk [.connector id] x s (.ok ()) ⟨x.request, m.share ids c, x.inProgress⟩ s' ∧
      (m.share ids c).connector? id = some c := by
  induction h with
  | here => exact ⟨hlast, hc⟩
  | @next ids id _ _ _ x y _ s _ _ _ _ prepared failed other_eq _ ih =>
      have walk := prepared.walk hx
      obtain ⟨instead, hshared⟩ := ih (prepared.fits hx) hlast hc
      have hreplaced : r.Walk [.connector id] x s (.ok ())
          ((Resolution.leave ⟨y.request, m.share ids c, y.inProgress⟩ id).record id
            (.connector c)) s' :=
        .replaced (t := .connector id) prepared.result? prepared.work? prepared.free walk
          (Connector.work_resolve failed) other_eq instead (Memo.result?_connector.mpr hshared)
          .nil
      rw [walk.leave_eq (m.share ids c)] at hreplaced
      exact ⟨hreplaced, Memo.connector?_put_self _ _ _⟩

/-- What stops the last connector of a chain stops all of the chain. -/
theorem Handed.walk_error (h : r.Handed ids id x s last z t)
    (hx : r.Fits (r.size + 1) x.inProgress) {f : Fault}
    (hlast : r.Walk [.connector last] z t (.error f) ⟨z.request, m, z.inProgress⟩ s') :
    r.Walk [.connector id] x s (.error f) ⟨x.request, m, x.inProgress⟩ s' := by
  induction h with
  | here => exact hlast
  | @next ids id _ _ _ x y _ s _ _ _ _ prepared failed other_eq _ ih =>
      have walk := prepared.walk hx
      have instead := ih (prepared.fits hx) hlast
      have hended : r.Walk [.connector id] x s (.error f)
          (Resolution.leave ⟨y.request, m, y.inProgress⟩ id) s' :=
        .failover (t := .connector id) prepared.result? prepared.work? prepared.free walk
          (Connector.work_resolve failed) other_eq instead
      rw [walk.leave_eq m] at hended
      exact hended

/-! ## From walks to chains -/

/-- How the last connector of a chain comes out. -/
def Settles (r : Registry σ) (last : String) (z : Resolution) (t : σ) (out : Except Fault Unit)
    (s' : σ) : Prop :=
  ∃ m, (out = .ok () ∧ ∃ c, r.Supplies last z t c m s') ∨
    ∃ f : Fault, out = .error f ∧ r.Stops last z t f.error m s'

/-- A walk to a connector follows a chain.  The induction is on the walk; it goes on only where a
failover has its turn. -/
theorem Walk.exists_handed {out : Except Fault Unit} (h : r.Walk [.connector id] x s out y s')
    (hx : r.Fits (r.size + 1) x.inProgress) :
    ∃ ids last z t, r.Handed ids id x s last z t ∧ r.Settles last z t out s' := by
  generalize hts : [Target.connector id] = ts at h
  induction h generalizing id with
  | nil => cases hts
  | absent _ _ _ _ => cases hts
  | known result next _ =>
      cases hts
      cases next
      obtain ⟨a, ha⟩ := Option.isSome_iff_exists.mp result
      obtain ⟨c, hc, -⟩ := Option.map_eq_some_iff.mp ha
      exact ⟨_, _, _, _, .here, _, .inl ⟨rfl, c, .known hc⟩⟩
  | unknown fresh none =>
      cases hts
      have hfresh := Memo.result?_connector_eq_none.mp fresh
      have hunknown := Option.map_eq_none_iff.mp none
      exact ⟨_, _, _, _, .here, _, .inr ⟨_, rfl, .unknown hfresh hunknown⟩⟩
  | cycle fresh work entered =>
      cases hts
      have hfresh := Memo.result?_connector_eq_none.mp fresh
      obtain ⟨own, registered, -⟩ := Option.map_eq_some_iff.mp work
      exact ⟨_, _, _, _, .here, _, .inr ⟨_, rfl, .revisited hfresh registered entered⟩⟩
  | dependency fresh work free dependencies _ =>
      cases hts
      have hfresh := Memo.result?_connector_eq_none.mp fresh
      obtain ⟨own, registered, rfl⟩ := Option.map_eq_some_iff.mp work
      have hpush := hx.push free registered
      have hdependency := (resolveDependencies_eq_error_iff hpush).mpr ⟨_, rfl, dependencies⟩
      exact ⟨_, _, _, _, .here, _,
        .inr ⟨_, rfl, .dependency hfresh registered free hdependency⟩⟩
  | own fresh work free dependencies resolved next _ _ =>
      cases hts
      cases next
      obtain ⟨own, rfl, prepared⟩ := Prepared.of_walk hx fresh work free dependencies
      obtain ⟨_ | attributes, hanswer, heq⟩ := Connector.answer_of_work resolved <;> cases heq
      exact ⟨_, _, _, _, .here, _, .inl ⟨rfl, _, .own prepared hanswer⟩⟩
  | failed fresh work free dependencies failed alone _ =>
      cases hts
      obtain ⟨own, rfl, prepared⟩ := Prepared.of_walk hx fresh work free dependencies
      obtain ⟨e | _, hanswer, heq⟩ := Connector.answer_of_work failed <;> cases heq
      exact ⟨_, _, _, _, .here, _, .inr ⟨_, rfl, .own prepared hanswer alone⟩⟩
  | failover fresh work free dependencies failed other_eq _ _ ihInstead =>
      cases hts
      obtain ⟨own, rfl, prepared⟩ := Prepared.of_walk hx fresh work free dependencies
      obtain ⟨e | _, hanswer, heq⟩ := Connector.answer_of_work failed <;> cases heq
      obtain ⟨ids, last, z, t, hrest, hsettles⟩ := ihInstead (prepared.fits hx) rfl
      exact ⟨_, _, _, _, .next prepared hanswer other_eq hrest, hsettles⟩
  | replaced fresh work free dependencies failed other_eq _ _ next _ ihInstead _ =>
      cases hts
      cases next
      obtain ⟨own, rfl, prepared⟩ := Prepared.of_walk hx fresh work free dependencies
      obtain ⟨e | _, hanswer, heq⟩ := Connector.answer_of_work failed <;> cases heq
      obtain ⟨ids, last, z, t, hrest, hsettles⟩ := ihInstead (prepared.fits hx) rfl
      exact ⟨_, _, _, _, .next prepared hanswer other_eq hrest, hsettles⟩

/-! ## What chains keep -/

/-- Connectors in progress have no results. -/
def Pending (x : Resolution) : Prop := ∀ id ∈ x.inProgress, x.memo.connector? id = none

/-- While a connector is in progress it gets no result, and nor do those that were before it. -/
theorem Pending.walk (hpending : Pending x) {ts : List Target} {out : Except Fault Unit}
    (fresh : x.memo.connector? id = none) (h : r.Walk ts (x.push id) s out y s') : Pending y := by
  intro i hi
  rw [h.frame.2] at hi
  rw [Memo.connector?_congr (h.untouched i hi)]
  rcases List.mem_cons.mp hi with rfl | hi
  · exact fresh
  · exact hpending i hi

/-- The connectors of a chain are in progress when the last one has its turn. -/
theorem Handed.pending (h : r.Handed ids id x s last z t)
    (hx : r.Fits (r.size + 1) x.inProgress) (hpending : Pending x) :
    r.Fits (r.size + 1) z.inProgress ∧ z.inProgress = ids.reverse ++ x.inProgress ∧
      Pending z := by
  induction h with
  | here => exact ⟨hx, rfl, hpending⟩
  | @next ids id _ _ _ x _ _ _ _ _ _ _ prepared _ _ _ ih =>
      have walk := prepared.walk hx
      obtain ⟨hfits, heq, hz⟩ := ih (prepared.fits hx) (hpending.walk prepared.fresh walk)
      refine ⟨hfits, ?_, hz⟩
      rw [heq, walk.frame.2, List.reverse_cons, List.append_assoc]
      rfl

theorem Handed.registered (h : r.Handed ids id x s last z t) :
    ∀ i ∈ ids, (r.connector? i).isSome := by
  induction h with
  | here => exact fun i hi => absurd hi List.not_mem_nil
  | next prepared _ _ _ ih =>
      exact List.forall_mem_cons.mpr ⟨Option.isSome_of_eq_some prepared.registered, ih⟩

theorem Supplies.free (h : r.Supplies id x s c m s') (hpending : Pending x) :
    id ∉ x.inProgress := by
  cases h with
  | known known =>
      intro hid
      rw [hpending id hid] at known
      cases known
  | own prepared _ => exact prepared.free

theorem Stops.pending (h : r.Stops id x s e m s') (hx : r.Fits (r.size + 1) x.inProgress)
    (hpending : Pending x) : ∀ i ∈ id :: x.inProgress, m.connector? i = none := by
  cases h with
  | unknown fresh _ => exact List.forall_mem_cons.mpr ⟨fresh, hpending⟩
  | revisited fresh _ _ => exact List.forall_mem_cons.mpr ⟨fresh, hpending⟩
  | dependency fresh registered free dependency =>
      have hpush := hx.push free registered
      obtain ⟨f, -, walk⟩ := (resolveDependencies_eq_error_iff hpush).mp dependency
      exact fun i hi => hpending.walk fresh walk i (walk.frame.2 ▸ hi)
  | own prepared _ _ =>
      have walk := prepared.walk hx
      exact fun i hi => hpending.walk prepared.fresh walk i (walk.frame.2 ▸ hi)

/-! ## Memos of one registry -/

/-- The connectors that have results are registered. -/
def Covers (r : Registry σ) (m : Memo) : Prop :=
  ∀ id, (m.connector? id).isSome → (r.connector? id).isSome

theorem Covers.put (h : r.Covers m) {u : Target} (hu : (r.work? u).isSome) {a : Resolved}
    (ha : a.Suits u) : r.Covers (m.put u.id a) := by
  intro i hi
  by_cases heq : u.id = i
  · subst heq
    rw [Memo.connector?, Memo.get?_put_self] at hi
    cases u with
    | connector id => rwa [work?, Option.isSome_map] at hu
    | definition id =>
        cases a with
        | connector c => exact ha.elim
        | definition b => cases hi
  · rw [Memo.connector?_congr (Memo.get?_put_of_ne _ heq _)] at hi
    exact h i hi

theorem Walk.covers {ts : List Target} {out : Except Fault Unit} (h : r.Walk ts x s out y s')
    (hx : r.Covers x.memo) : r.Covers y.memo := by
  induction h with
  | nil => exact hx
  | known _ _ ih => exact ih hx
  | absent _ _ _ ih => exact ih hx
  | unknown _ _ => exact hx
  | cycle _ _ _ => exact hx
  | dependency _ _ _ _ ih => exact ih hx
  | own _ work _ _ resolved _ ih ihNext =>
      exact ihNext ((ih hx).put (Option.isSome_of_eq_some work) (suits_of_resolve work resolved))
  | failed _ _ _ _ _ _ ih => exact ih hx
  | failover _ _ _ _ _ _ _ ih ihInstead => exact ihInstead (ih hx)
  | @replaced u _ _ _ _ _ _ _ _ _ _ _ _ _ a _ _ work _ _ _ other_eq _ result _ ih ihInstead
      ihNext =>
      have hsuits : a.Suits u := by
        rw [connector_of_failover work other_eq]
        obtain ⟨c, -, rfl⟩ := Option.map_eq_some_iff.mp result
        trivial
      exact ihNext ((ihInstead (ih hx)).put (Option.isSome_of_eq_some work) hsuits)

theorem Handed.covers (h : r.Handed ids id x s last z t) (hx : r.Fits (r.size + 1) x.inProgress)
    (hcovers : r.Covers x.memo) : r.Covers z.memo := by
  induction h with
  | here => exact hcovers
  | next prepared _ _ _ ih => exact ih (prepared.fits hx) ((prepared.walk hx).covers hcovers)

/-! ## Connectors of a resolution at rest -/

/-- Nothing but the chain is in progress where it set out from a resolution at rest. -/
theorem Handed.atRest (h : r.Handed ids id x s last z t) (hx : x.inProgress = []) :
    r.Fits (r.size + 1) z.inProgress ∧ z.inProgress = ids.reverse ∧ Pending z := by
  obtain ⟨hfits, hin, hpending⟩ := h.pending (hx ▸ .atRest r)
    fun i hi => absurd (hx ▸ hi) List.not_mem_nil
  rw [hx, List.append_nil] at hin
  exact ⟨hfits, hin, hpending⟩

theorem resolveConnector_eq_ok_iff (s : σ) (hx : x.inProgress = []) :
    r.resolveConnector id x s = (.ok c, y, s') ↔
      ∃ ids last z t m, r.Handed ids id x s last z t ∧ r.Supplies last z t c m s' ∧
        y = ⟨x.request, m.share ids c, []⟩ := by
  have hfits : r.Fits (r.size + 1) x.inProgress := hx ▸ .atRest r
  rw [(r.resolveConnector_follows id s hx).eq_ok_iff
    fun ha hb => Option.some.inj (ha.symm.trans hb)]
  constructor
  · rintro ⟨walk, hc⟩
    obtain ⟨ids, last, z, t, handed, m, ⟨-, c', hsupplies⟩ | ⟨f, hf, -⟩⟩ :=
      walk.exists_handed hfits
    · obtain ⟨hlast, hm⟩ := hsupplies.walk (handed.atRest hx).1
      obtain ⟨walk', hshared⟩ := handed.walk_ok hfits hlast hm
      obtain ⟨-, rfl, -⟩ := walk'.unique walk
      cases hc.symm.trans hshared
      exact ⟨ids, last, z, t, m, handed, hsupplies, by rw [hx]⟩
    · cases hf
  · rintro ⟨ids, last, z, t, m, handed, hsupplies, rfl⟩
    obtain ⟨hlast, hm⟩ := hsupplies.walk (handed.atRest hx).1
    rw [← hx]
    exact handed.walk_ok hfits hlast hm

theorem resolveConnector_eq_error_iff (s : σ) (hx : x.inProgress = []) :
    r.resolveConnector id x s = (.error e, y, s') ↔
      ∃ ids last z t m, r.Handed ids id x s last z t ∧ r.Stops last z t e m s' ∧
        y = ⟨x.request, m, []⟩ := by
  have hfits : r.Fits (r.size + 1) x.inProgress := hx ▸ .atRest r
  rw [(r.resolveConnector_follows id s hx).eq_error_iff]
  constructor
  · rintro ⟨f, rfl, walk⟩
    obtain ⟨ids, last, z, t, handed, m, ⟨hok, -⟩ | ⟨f', hf, hstops⟩⟩ := walk.exists_handed hfits
    · cases hok
    · cases hf
      obtain ⟨f', -, hlast⟩ := hstops.walk (handed.atRest hx).1
      obtain ⟨-, rfl, -⟩ := (handed.walk_error hfits hlast).unique walk
      exact ⟨ids, last, z, t, m, handed, hstops, by rw [hx]⟩
  · rintro ⟨ids, last, z, t, m, handed, hstops, rfl⟩
    obtain ⟨f, hf, hlast⟩ := hstops.walk (handed.atRest hx).1
    rw [← hx]
    exact ⟨f, hf, handed.walk_error hfits hlast⟩

/-- All connectors of a chain are different, and all come to have the result of the last one. -/
theorem Supplies.shared (h : r.Supplies last z t c m s') (handed : r.Handed ids id x s last z t)
    (hx : x.inProgress = []) :
    (last :: ids).Nodup ∧ ∀ i ∈ last :: ids, (m.share ids c).connector? i = some c := by
  obtain ⟨hz, hin, hpending⟩ := handed.atRest hx
  have hfree := h.free hpending
  have hnodup := hz.nodup
  rw [hin, List.mem_reverse] at hfree
  rw [hin, List.nodup_reverse] at hnodup
  refine ⟨List.nodup_cons.mpr ⟨hfree, hnodup⟩, List.forall_mem_cons.mpr ⟨?_, fun i hi => ?_⟩⟩
  · rw [Memo.connector?_share, if_neg hfree]
    exact (h.walk hz).2
  · rw [Memo.connector?_share, if_pos hi]

/-- No connector of a chain that stops has a result. -/
theorem Stops.unshared (h : r.Stops last z t e m s') (handed : r.Handed ids id x s last z t)
    (hx : x.inProgress = []) : ids.Nodup ∧ ∀ i ∈ last :: ids, m.connector? i = none := by
  obtain ⟨hz, hin, hpending⟩ := handed.atRest hx
  have hnone := h.pending hz hpending
  have hnodup := hz.nodup
  rw [hin] at hnone
  rw [hin, List.nodup_reverse] at hnodup
  refine ⟨hnodup, List.forall_mem_cons.mpr ⟨hnone last List.mem_cons_self, fun i hi => ?_⟩⟩
  exact hnone i (List.mem_cons_of_mem _ (List.mem_reverse.mpr hi))

theorem Supplies.registered (h : r.Supplies id x s c m s') (hx : r.Covers x.memo) :
    (r.connector? id).isSome := by
  cases h with
  | known known => exact hx id (Option.isSome_of_eq_some known)
  | own prepared _ => exact Option.isSome_of_eq_some prepared.registered

/-- In a resolution at rest, a connector has a result if and only if it has a chain of different
connectors: all but the last one are registered and fail after their dependencies were resolved, and
the last one has a result in the memo, or is registered and does not fail.  Its result then is that
of the whole chain.  Without such a chain, the error is what stops the last connector that the chain
reaches, and none of these connectors has a result. -/
theorem resolveConnector_chain (r : Registry σ) (id : String) {x : Resolution} (s : σ)
    (hx : x.inProgress = []) :
    (∀ c y s', r.resolveConnector id x s = (.ok c, y, s') ↔
      ∃ ids last z t m, r.Handed ids id x s last z t ∧ r.Supplies last z t c m s' ∧
        y = ⟨x.request, m.share ids c, []⟩) ∧
    (∀ e y s', r.resolveConnector id x s = (.error e, y, s') ↔
      ∃ ids last z t m, r.Handed ids id x s last z t ∧ r.Stops last z t e m s' ∧
        y = ⟨x.request, m, []⟩) ∧
    (∀ ids last z t c m s', r.Handed ids id x s last z t → r.Supplies last z t c m s' →
      (last :: ids).Nodup ∧ (∀ i ∈ ids, (r.connector? i).isSome) ∧
        (r.Covers x.memo → (r.connector? last).isSome) ∧
        ∀ i ∈ last :: ids, (m.share ids c).connector? i = some c) ∧
    ∀ ids last z t e m s', r.Handed ids id x s last z t → r.Stops last z t e m s' →
      ids.Nodup ∧ (∀ i ∈ ids, (r.connector? i).isSome) ∧ z.inProgress = ids.reverse ∧
        ∀ i ∈ last :: ids, m.connector? i = none := by
  refine ⟨fun c y s' => resolveConnector_eq_ok_iff s hx,
    fun e y s' => resolveConnector_eq_error_iff s hx, ?_, ?_⟩
  · intro ids last z t c m s' handed hsupplies
    obtain ⟨hnodup, hshared⟩ := hsupplies.shared handed hx
    refine ⟨hnodup, handed.registered, fun hcovers => ?_, hshared⟩
    exact hsupplies.registered (handed.covers (hx ▸ .atRest r) hcovers)
  · intro ids last z t e m s' handed hstops
    obtain ⟨hnodup, hnone⟩ := hstops.unshared handed hx
    exact ⟨hnodup, handed.registered, (handed.atRest hx).2.1, hnone⟩

/-! ## A chain of three -/

def failing (id : String) (failover : Option String) : Connector Unit :=
  { id, dependencies := [], failover,
    resolve := fun _ _ s => (.error (.directory "unreachable"), s), check := fun s => (.ok (), s) }

def copies : AttributeMap := [("mail", ⟨"mail", [.string "jdoe@example.org"], none⟩)]

def copy : Connector Unit := .fixed ⟨⟨"copy", []⟩, none⟩ copies

/-- The second failover does not fail. -/
def relay : Registry Unit :=
  ⟨[failing "master" (some "mirror"), failing "mirror" (some "copy"), copy], [], []⟩

theorem resolveConnector_chain_relay :
    (∃ y, relay.resolveConnector "master" (.start .empty) () = (.ok ⟨"copy", copies⟩, y, ())) ∧
    ∃ ids last z m, relay.Handed ids "master" (.start .empty) () last z () ∧
      relay.Supplies last z () ⟨"copy", copies⟩ m () ∧ (last :: ids).Nodup ∧
      ∀ i ∈ last :: ids, (m.share ids ⟨"copy", copies⟩).connector? i = some ⟨"copy", copies⟩ := by
  have hanswer : ∃ y, relay.resolveConnector "master" (.start .empty) () =
      (.ok ⟨"copy", copies⟩, y, ()) := ⟨_, rfl⟩
  obtain ⟨hok, -, hchain, -⟩ := resolveConnector_chain relay "master" (x := .start .empty) () rfl
  obtain ⟨y, hy⟩ := hanswer
  obtain ⟨ids, last, z, t, m, handed, hsupplies, -⟩ := (hok _ _ _).mp hy
  obtain ⟨hnodup, -, -, hshared⟩ := hchain ids last z t _ m () handed hsupplies
  exact ⟨⟨y, hy⟩, ids, last, z, m, handed, hsupplies, hnodup, hshared⟩

/-! ## A chain that ends at a connector of another registry -/

def former : Registry Unit := ⟨[copy], [], []⟩

def renewed : Registry Unit := ⟨[failing "master" (some "copy")], [], []⟩

/-- A resolution that goes on with the new registry after a connector of the former one has been
resolved. -/
def carried : Resolution := (former.resolveConnector "copy" (.start .empty) ()).2.1

/-- The last connector of a chain need not be registered, if the memo has its result. -/
theorem resolveConnector_chain_carried :
    (Resolver.reload ⟨"resolver", former⟩ renewed ()).1.toOption = some ⟨"resolver", renewed⟩ ∧
    carried.inProgress = [] ∧
    (∃ y, renewed.resolveConnector "master" carried () = (.ok ⟨"copy", copies⟩, y, ())) ∧
    ¬ ∃ ids last z t c m s', renewed.Handed ids "master" carried () last z t ∧
      renewed.Supplies last z t c m s' ∧ ∀ i ∈ last :: ids, (renewed.connector? i).isSome := by
  refine ⟨rfl, rfl, ⟨_, rfl⟩, ?_⟩
  rintro ⟨ids, last, z, t, c, m, s', handed, hsupplies, hregistered⟩
  cases handed with
  | here =>
      cases hsupplies with
      | known known => cases known
      | own prepared resolved =>
          cases prepared.registered
          cases resolved
  | next prepared _ other_eq rest =>
      cases prepared.registered
      cases other_eq
      -- the second connector of the chain is the last one, or fails itself
      cases rest with
      | here => exact absurd (hregistered "copy" List.mem_cons_self) (by decide)
      | next prepared _ _ _ => cases prepared.registered

end Registry

end AttributeRelease
