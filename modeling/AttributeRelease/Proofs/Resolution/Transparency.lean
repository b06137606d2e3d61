import AttributeRelease.Proofs.Resolution.Calls
import AttributeRelease.Proofs.Resolution.Sound

/-!
# Memos are transparent

Calls on one resolution share a memo.  As long as what plugins come to depends on the request and on
their dependencies alone, every call answers as it would on a resolution of its own, whatever the
calls before it have left in the memo, and whether or not they failed.
-/

namespace AttributeRelease

variable {σ α : Type}

namespace Registry

open Resolution (Step)

variable {r : Registry σ} {request : Request}

/-- Where a walk resolves a plugin, evaluation has a result too. -/
theorem Walk.evaluate_ok (hbuilt : r.Built) (hdet : r.Deterministic) {t : Target}
    {x y : Resolution} {s s' : σ} (h : r.Walk [t] x s (.ok ()) y s')
    (hrequest : x.request = request) (hsound : r.Sound request x.memo)
    (ht : (r.work? t).isSome) (s₀ : σ) {room : Nat} (hroom : r.Fits room x.inProgress)
    (hawaited : r.Awaited request x.inProgress t) :
    ∃ a, r.evaluate request s₀ room x.inProgress t = .ok (some a) := by
  have hkept := h.kept hbuilt hrequest hsound
  obtain ⟨a, hresult⟩ := Option.isSome_iff_exists.mp
    (hkept.results rfl t List.mem_cons_self ht)
  exact ⟨a, (hkept.sound.yields hresult).evaluate_eq hbuilt hdet s₀ hroom hawaited⟩

/-- Dependencies that a walk has resolved come to the results in its memo. -/
theorem Walk.evaluate_dependencies (hbuilt : r.Built) (hdet : r.Deterministic) {t : Target}
    {w : Work σ} (work : r.work? t = some w) {x y : Resolution} {s s' : σ}
    (h : r.Walk (r.targets w.dependencies) (x.push t.id) s (.ok ()) y s')
    (hrequest : x.request = request) (hsound : r.Sound request x.memo)
    (free : t.id ∉ x.inProgress) (s₀ : σ) {room : Nat}
    (hroom : r.Fits (room + 1) x.inProgress) (hawaited : r.Awaited request x.inProgress t) :
    ∀ d ∈ w.dependencies, ∀ u, r.target? d = some u →
      r.evaluate request s₀ room (t.id :: x.inProgress) u = .ok (some (y.memo.resultOf d)) := by
  intro d hd u hu
  have ht := Option.isSome_of_eq_some work
  have hkept := h.kept hbuilt hrequest hsound
  have hyields := hkept.supplied.dependencies d hd u hu
  exact hyields.evaluate_eq hbuilt hdet s₀ (hroom.enter free ht)
    (hawaited.enter hbuilt ht (.dependency work hd hu))

/-- A plugin that a walk has resolved is evaluated, and what ends the evaluation of the plugins
behind it is all that ends it. -/
theorem Walk.gather_next (hbuilt : r.Built) (hdet : r.Deterministic) {t : Target}
    {rest : List Target} {x y : Resolution} {s s' : σ} {f : Fault}
    (h : r.Walk [t] x s (.ok ()) y s') (ht : (r.work? t).isSome) (hrequest : x.request = request)
    (hsound : r.Sound request x.memo) (s₀ : σ) {room : Nat} (hroom : r.Fits room x.inProgress)
    (hawaited : ∀ u ∈ t :: rest, r.Awaited request x.inProgress u)
    (hnext : y.request = request → r.Sound request y.memo → r.Fits room y.inProgress →
      (∀ u ∈ rest, r.Awaited request y.inProgress u) →
        gather (r.evaluate request s₀ room y.inProgress) rest = .error f) :
    gather (r.evaluate request s₀ room x.inProgress) (t :: rest) = .error f := by
  obtain ⟨hsame, hin⟩ := h.frame
  obtain ⟨_, hevaluate⟩ := h.evaluate_ok hbuilt hdet hrequest hsound ht s₀ hroom
    (hawaited t List.mem_cons_self)
  have hsound' := (h.kept hbuilt hrequest hsound).sound
  rw [hin] at hnext
  exact gather_error_cons hevaluate (hnext (hsame.trans hrequest) hsound' hroom
    fun u hu => hawaited u (List.mem_cons_of_mem t hu))

/-- A fault that ends a walk from a sound memo ends the evaluation without a memo as well.  The
induction is on the walk; where it takes a result from the memo, evaluation comes to the same
result. -/
theorem Walk.gather_error (hbuilt : r.Built) (hdet : r.Deterministic) {ts : List Target}
    {x y : Resolution} {s s' : σ} {f : Fault} (h : r.Walk ts x s (.error f) y s')
    (hrequest : x.request = request) (hsound : r.Sound request x.memo) (s₀ : σ) {room : Nat}
    (hroom : r.Fits room x.inProgress) (hawaited : ∀ t ∈ ts, r.Awaited request x.inProgress t) :
    gather (r.evaluate request s₀ room x.inProgress) ts = .error f := by
  generalize hout : (Except.error f : Except Fault Unit) = out at h
  induction h generalizing room with
  | nil => cases hout
  | @known t _ x _ _ _ _ result _ ih =>
      obtain ⟨a, hresult⟩ := Option.isSome_iff_exists.mp result
      have hevaluate := (hsound.yields hresult).evaluate_eq hbuilt hdet s₀ hroom
        (hawaited t List.mem_cons_self)
      exact gather_error_cons hevaluate
        (ih hrequest hsound hroom (fun u hu => hawaited u (List.mem_cons_of_mem _ hu)) hout)
  | absent _ none _ ih =>
      obtain ⟨room, rfl⟩ := hroom.exists_succ
      exact gather_error_cons (by rw [evaluate, none]; rfl)
        (ih hrequest hsound hroom (fun u hu => hawaited u (List.mem_cons_of_mem _ hu)) hout)
  | unknown _ none =>
      cases hout
      obtain ⟨room, rfl⟩ := hroom.exists_succ
      exact gather_error_head (by rw [evaluate, none]; rfl) _
  | cycle _ work entered =>
      cases hout
      obtain ⟨room, rfl⟩ := hroom.exists_succ
      exact gather_error_head (by rw [evaluate, work]; simp only [if_pos entered]) _
  | @dependency t _ _ _ _ _ _ _ _ work free _ ih =>
      obtain ⟨room, rfl⟩ := hroom.exists_succ
      have ht := Option.isSome_of_eq_some work
      have hgather := ih hrequest hsound (hroom.enter free ht) (fun u hu => by
        obtain ⟨d, hd, htarget⟩ := mem_targets.mp hu
        exact (hawaited t List.mem_cons_self).enter hbuilt ht (.dependency work hd htarget)) hout
      cases hout
      change gather (r.evaluate request s₀ room (t.id :: _)) _ = _ at hgather
      refine gather_error_head ?_ _
      rw [evaluate, work]
      simp only [if_neg free, hgather]
  | @own t w rest x y _ _ _ _ _ a _ fresh work free dependencies resolved _ _ ihNext =>
      have ht := Option.isSome_of_eq_some work
      have hfirst := Walk.own fresh work free dependencies resolved .nil
      refine hfirst.gather_next hbuilt hdet ht hrequest hsound s₀ hroom hawaited ?_
      intro hrequest' hsound' hroom' hawaited'
      exact ihNext hrequest' hsound' hroom' hawaited' hout
  | @failed t w _ x y _ s₁ _ e _ work free dependencies failed alone _ =>
      cases hout
      obtain ⟨room, rfl⟩ := hroom.exists_succ
      have hkept := dependencies.kept hbuilt hrequest hsound
      have hstep := dependencies.evaluate_dependencies hbuilt hdet work hrequest hsound free s₀
        hroom (hawaited t List.mem_cons_self)
      rw [dependencies.frame.1.trans hrequest] at failed
      refine gather_error_head ?_ _
      rw [evaluate_supplied hdet work hkept.supplied s₀ free hstep s₁, failed, alone]
  | @failover t w _ x y _ _ s₁ _ _ e other _ _ work free dependencies failed other_eq instead _
      ihInstead =>
      obtain ⟨room, rfl⟩ := hroom.exists_succ
      have ht := Option.isSome_of_eq_some work
      have hkept := dependencies.kept hbuilt hrequest hsound
      have hstep := dependencies.evaluate_dependencies hbuilt hdet work hrequest hsound free s₀
        hroom (hawaited t List.mem_cons_self)
      have hrequest' : y.request = request := dependencies.frame.1.trans hrequest
      rw [hrequest'] at failed
      have hin : y.inProgress = t.id :: x.inProgress := dependencies.frame.2
      have hroom' : r.Fits room y.inProgress := hin ▸ hroom.enter free ht
      have hgather := ihInstead hrequest' hkept.sound hroom'
        (fun u hu => by
          rw [List.mem_singleton.mp hu, hin]
          exact (hawaited t List.mem_cons_self).enter hbuilt ht
            (.failover work hkept.supplied failed other_eq)) hout
      cases hout
      rw [hin] at hgather
      refine gather_error_head ?_ _
      rw [evaluate_supplied hdet work hkept.supplied s₀ free hstep s₁, failed, other_eq]
      exact gather_singleton_error hgather
  | @replaced t w rest x y z _ _ _ _ _ _ _ _ a _ fresh work free dependencies failed other_eq
      instead result _ _ _ ihNext =>
      have ht := Option.isSome_of_eq_some work
      have hfirst := Walk.replaced fresh work free dependencies failed other_eq instead result .nil
      refine hfirst.gather_next hbuilt hdet ht hrequest hsound s₀ hroom hawaited ?_
      intro hrequest' hsound' hroom' hawaited'
      exact ihNext hrequest' hsound' hroom' hawaited' hout

/-! ## Steps -/

/-- A resolution for a request that is at rest, with a sound memo. -/
structure Settled (r : Registry σ) (request : Request) (x : Resolution) : Prop where
  request_eq : x.request = request
  atRest : x.inProgress = []
  sound : r.Sound request x.memo

theorem Settled.start (r : Registry σ) (request : Request) :
    r.Settled request (.start request) where
  request_eq := rfl
  atRest := rfl
  sound := .empty

/-- A step whose result is the same from all memos that are sound, and that keeps them so. -/
structure Transparent (r : Registry σ) (request : Request) (step : Step σ α) : Prop where
  same : ∀ {x x' : Resolution} (s s' : σ), r.Settled request x → r.Settled request x' →
    (step x s).1 = (step x' s').1
  settled : ∀ {x : Resolution} (s : σ), r.Settled request x → r.Settled request (step x s).2.1
  extend : ∀ {x : Resolution} (s : σ), r.Settled request x →
    x.memo.Extends (step x s).2.1.memo

theorem Walk.settled (hbuilt : r.Built) {ts : List Target} {x y : Resolution} {s s' : σ}
    {out : Except Fault Unit} (h : r.Walk ts x s out y s') (hx : r.Settled request x) :
    r.Settled request y ∧ x.memo.Extends y.memo := by
  have hkept := h.kept hbuilt hx.request_eq hx.sound
  exact ⟨⟨h.frame.1.trans hx.request_eq, h.frame.2.trans hx.atRest, hkept.sound⟩, hkept.extend⟩

theorem Follows.settled (hbuilt : r.Built) {read : Memo → α → Prop} {ts : List Target}
    {x : Resolution} {s : σ} {answer : Except ResolutionError α × Resolution × σ}
    (h : r.Follows read ts x s answer) (hx : r.Settled request x) :
    r.Settled request answer.2.1 ∧ x.memo.Extends answer.2.1.memo := by
  cases h with
  | ok walk _ => exact walk.settled hbuilt hx
  | error walk => exact walk.settled hbuilt hx

theorem Settled.evaluate_result (hbuilt : r.Built) (hdet : r.Deterministic) {x : Resolution}
    (hx : r.Settled request x) {t : Target} {a : Resolved} (h : x.memo.result? t = some a)
    (s₀ : σ) : r.evaluate request s₀ (r.size + 1) [] t = .ok (some a) :=
  (hx.sound.yields h).evaluate_eq hbuilt hdet s₀ (.atRest r) (.nil t)

theorem Settled.evaluate_error (hbuilt : r.Built) (hdet : r.Deterministic) {x y : Resolution}
    (hx : r.Settled request x) {t : Target} {s s' : σ} {f : Fault}
    (h : r.Walk [t] x s (.error f) y s') (s₀ : σ) :
    r.evaluate request s₀ (r.size + 1) [] t = .error f := by
  have hroom : r.Fits (r.size + 1) x.inProgress := hx.atRest ▸ .atRest r
  have hawaited : ∀ u ∈ [t], r.Awaited request x.inProgress u := fun u _ => hx.atRest ▸ .nil u
  have hgather := h.gather_error hbuilt hdet hx.request_eq hx.sound s₀ hroom hawaited
  rw [hx.atRest] at hgather
  exact gather_singleton_error hgather

/-- From a sound memo, a connector comes to what evaluation comes to. -/
theorem resolveConnector_eq (hbuilt : r.Built) (hdet : r.Deterministic) {x : Resolution}
    (hx : r.Settled request x) (id : String) (s s₀ : σ) :
    (r.resolveConnector id x s).1.map (fun c => some (.connector c)) =
      (r.evaluate request s₀ (r.size + 1) [] (.connector id)).mapError Fault.error := by
  rcases (r.resolveConnector_follows id s hx.atRest).inv with
    ⟨c, y, s', heq, walk, value⟩ | ⟨f, y, s', heq, walk⟩
  · have hresult := Memo.result?_connector.mpr value
    rw [heq, (walk.settled hbuilt hx).1.evaluate_result hbuilt hdet hresult s₀]
    rfl
  · rw [heq, hx.evaluate_error hbuilt hdet walk s₀]
    rfl

/-- From a sound memo, a definition comes to what evaluation comes to. -/
theorem resolveDefinition_eq (hbuilt : r.Built) (hdet : r.Deterministic) {x : Resolution}
    (hx : r.Settled request x) (id : String) (s s₀ : σ) :
    (r.resolveDefinition id x s).1.map (fun a => a.map .definition) =
      (r.evaluate request s₀ (r.size + 1) [] (.definition id)).mapError Fault.error := by
  rcases (r.resolveDefinition_follows id s hx.atRest).inv with
    ⟨a, y, s', heq, walk, value⟩ | ⟨f, y, s', heq, walk⟩
  · have hresult : y.memo.result? (.definition id) = a.map .definition := by
      rw [ReadsDefinition] at value
      rw [Memo.result?, value]
    rw [heq]
    cases a with
    | some a =>
        rw [(walk.settled hbuilt hx).1.evaluate_result hbuilt hdet hresult s₀]
        rfl
    | none =>
        have hnone : r.work? (.definition id) = none := by
          cases hwork : r.work? (.definition id) with
          | none => rfl
          | some w =>
              have hkept := walk.kept hbuilt hx.request_eq hx.sound
              have hsome := hkept.results rfl _ List.mem_cons_self (by rw [hwork]; rfl)
              rw [hresult] at hsome
              cases hsome
        rw [evaluate, hnone]
        rfl
  · rw [heq, hx.evaluate_error hbuilt hdet walk s₀]
    rfl

theorem eq_of_map_eq {ε β γ : Type} {f : β → γ} (hf : ∀ {b b' : β}, f b = f b' → b = b')
    {a a' : Except ε β} (h : a.map f = a'.map f) : a = a' := by
  cases a with
  | error e =>
      cases a' with
      | error e' => exact congrArg Except.error (Except.error.inj h)
      | ok b' => cases h
  | ok b =>
      cases a' with
      | error e' => cases h
      | ok b' => exact congrArg Except.ok (hf (Except.ok.inj h))

theorem resolveConnector_transparent (hbuilt : r.Built) (hdet : r.Deterministic) (id : String) :
    r.Transparent request (r.resolveConnector id) where
  same s s' hx hx' := by
    have hsame := (resolveConnector_eq hbuilt hdet hx id s s).trans
      (resolveConnector_eq hbuilt hdet hx' id s' s).symm
    exact eq_of_map_eq (fun h => by cases h; rfl) hsame
  settled s hx := ((r.resolveConnector_follows id s hx.atRest).settled hbuilt hx).1
  extend s hx := ((r.resolveConnector_follows id s hx.atRest).settled hbuilt hx).2

theorem resolveDefinition_transparent (hbuilt : r.Built) (hdet : r.Deterministic) (id : String) :
    r.Transparent request (r.resolveDefinition id) where
  same s s' hx hx' := by
    have hsame := (resolveDefinition_eq hbuilt hdet hx id s s).trans
      (resolveDefinition_eq hbuilt hdet hx' id s' s).symm
    exact eq_of_map_eq (fun {a a'} h => by cases a <;> cases a' <;> cases h <;> rfl) hsame
  settled s hx := ((r.resolveDefinition_follows id s hx.atRest).settled hbuilt hx).1
  extend s hx := ((r.resolveDefinition_follows id s hx.atRest).settled hbuilt hx).2

theorem each_same {step : String → Step σ α} (hstep : ∀ id, r.Transparent request (step id))
    (ids : List String) {x x' : Resolution} (s s' : σ) (hx : r.Settled request x)
    (hx' : r.Settled request x') :
    (Resolution.each step ids x s).1 = (Resolution.each step ids x' s').1 := by
  induction ids generalizing x x' s s' with
  | nil => rfl
  | cons id rest ih =>
      have hsame := (hstep id).same s s' hx hx'
      have hsettled := (hstep id).settled s hx
      have hsettled' := (hstep id).settled s' hx'
      rcases hfirst : step id x s with ⟨result, y, t⟩
      rcases hfirst' : step id x' s' with ⟨result', y', t'⟩
      rw [hfirst] at hsame hsettled
      rw [hfirst'] at hsame hsettled'
      change result = result' at hsame
      subst hsame
      rw [Resolution.each]
      simp only [hfirst, hfirst']
      cases result with
      | error e => rfl
      | ok a =>
          have hrest := ih t t' hsettled hsettled'
          rcases hmore : Resolution.each step rest y t with ⟨more, z, u⟩
          rcases hmore' : Resolution.each step rest y' t' with ⟨more', z', u'⟩
          rw [hmore, hmore'] at hrest
          change more = more' at hrest
          subst hrest
          simp only [hmore, hmore']
          cases more <;> rfl

end Registry

end AttributeRelease
