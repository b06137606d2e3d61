import AttributeRelease.Proofs.Resolution.Transparency
import Mathlib.Tactic.FinCases

/-!
# Sequences of calls

Calls that are made one after the other on one resolution.  Each answers as it does on a resolution
of its own, also behind calls that failed, and no result in the memo ever changes.
-/

namespace AttributeRelease

variable {σ α β : Type}

/-- What a resolution can be used for. -/
inductive Call
  | definition (id : String)
  | connector (id : String)
  /-- The attributes that the request asks for. -/
  | attributes

/-- What comes of a call. -/
inductive Reply
  | definition (a : Option Attribute)
  | connector (c : Sourced)
  | attributes (m : AttributeMap)

/-- A step with another form of its result. -/
def Resolution.mapStep (f : α → β) (step : Resolution.Step σ α) : Resolution.Step σ β :=
  fun x s => ((step x s).1.map f, (step x s).2)

namespace Resolver

/-- Makes a call. -/
def answer (e : Resolver σ) : Call → Resolution.Step σ Reply
  | .definition id => Resolution.mapStep .definition (e.registry.resolveDefinition id)
  | .connector id => Resolution.mapStep .connector (e.registry.resolveConnector id)
  | .attributes => Resolution.mapStep .attributes e.resolveIn

/-- Makes calls one after the other, whether or not they fail. -/
def answerAll (e : Resolver σ) :
    List Call → Resolution → σ → List (Except ResolutionError Reply) × Resolution × σ
  | [], x, s => ([], x, s)
  | call :: rest, x, s =>
    match e.answer call x s with
    | (reply, x, s) =>
      match e.answerAll rest x s with
      | (replies, x, s) => (reply :: replies, x, s)

end Resolver

namespace Registry

variable {r : Registry σ} {request : Request}

theorem Transparent.mapStep {step : Resolution.Step σ α} (h : r.Transparent request step)
    (f : α → β) : r.Transparent request (Resolution.mapStep f step) where
  same s s' hx hx' := congrArg (Except.map f) (h.same s s' hx hx')
  settled := h.settled
  extend := h.extend

end Registry

namespace Resolver

variable {e : Resolver σ} {request : Request}

theorem resolveIn_transparent (hbuilt : e.registry.Built) (hdet : e.registry.Deterministic) :
    e.registry.Transparent request e.resolveIn where
  same {x x'} s s' hx hx' := by
    have hsame := Registry.each_same
      (Registry.resolveDefinition_transparent hbuilt hdet) (e.requested request) s s' hx hx'
    rw [resolveIn, resolveIn, hx.request_eq, hx'.request_eq]
    split
    · rfl
    · rcases hfirst : Resolution.each e.registry.resolveDefinition (e.requested request) x s with
        ⟨result, y, t⟩
      rcases hsecond : Resolution.each e.registry.resolveDefinition (e.requested request) x' s' with
        ⟨result', y', t'⟩
      rw [hfirst, hsecond] at hsame
      change result = result' at hsame
      subst hsame
      cases result <;> rfl
  settled s hx := ((e.resolveIn_follows s hx.atRest).settled hbuilt hx).1
  extend s hx := ((e.resolveIn_follows s hx.atRest).settled hbuilt hx).2

theorem answer_transparent (hbuilt : e.registry.Built) (hdet : e.registry.Deterministic)
    (request : Request) (call : Call) : e.registry.Transparent request (e.answer call) := by
  cases call with
  | definition id => exact (Registry.resolveDefinition_transparent hbuilt hdet id).mapStep _
  | connector id => exact (Registry.resolveConnector_transparent hbuilt hdet id).mapStep _
  | attributes => exact (resolveIn_transparent hbuilt hdet).mapStep _

theorem answerAll_cons (e : Resolver σ) (call : Call) (rest : List Call) (x : Resolution) (s : σ) :
    e.answerAll (call :: rest) x s =
      ((e.answer call x s).1 ::
          (e.answerAll rest (e.answer call x s).2.1 (e.answer call x s).2.2).1,
        (e.answerAll rest (e.answer call x s).2.1 (e.answer call x s).2.2).2) := rfl

theorem answerAll_append (e : Resolver σ) (first second : List Call) (x : Resolution) (s : σ) :
    (e.answerAll (first ++ second) x s).2 =
      (e.answerAll second (e.answerAll first x s).2.1 (e.answerAll first x s).2.2).2 := by
  induction first generalizing x s with
  | nil => rfl
  | cons call rest ih =>
      rw [List.cons_append, answerAll_cons, answerAll_cons]
      exact ih _ _

/-- Calls keep a memo sound, and change none of its results. -/
theorem answerAll_settled (hbuilt : e.registry.Built) (hdet : e.registry.Deterministic)
    (calls : List Call) {x : Resolution} (s : σ) (hx : e.registry.Settled request x) :
    e.registry.Settled request (e.answerAll calls x s).2.1 ∧
      x.memo.Extends (e.answerAll calls x s).2.1.memo := by
  induction calls generalizing x s with
  | nil => exact ⟨hx, .refl _⟩
  | cons call rest ih =>
      have hcall := answer_transparent hbuilt hdet request call
      obtain ⟨hsettled, hextends⟩ := ih (e.answer call x s).2.2 (hcall.settled s hx)
      rw [answerAll_cons]
      exact ⟨hsettled, (hcall.extend s hx).trans hextends⟩

theorem answerAll_eq (hbuilt : e.registry.Built) (hdet : e.registry.Deterministic)
    (calls : List Call) {x : Resolution} (s s₀ : σ) (hx : e.registry.Settled request x) :
    (e.answerAll calls x s).1 = calls.map fun call => (e.answer call (.start request) s₀).1 := by
  induction calls generalizing x s with
  | nil => rfl
  | cons call rest ih =>
      have hcall := answer_transparent hbuilt hdet request call
      rw [answerAll_cons, List.map_cons, hcall.same s s₀ hx (.start e.registry request),
        ih (e.answer call x s).2.2 (hcall.settled s hx)]

/-- Every call of a sequence, whether or not those before it failed, answers as it does on a
resolution of its own, in whatever world.  What is in the memo is what plugins yield, and stays
there, from call to call and through every walk in them. -/
theorem answerAll_transparent (hbuilt : e.registry.Built) (hdet : e.registry.Deterministic)
    (request : Request) (calls : List Call) (s : σ) :
    (∀ s₀, (e.answerAll calls (.start request) s).1 =
      calls.map fun call => (e.answer call (.start request) s₀).1) ∧
    (∀ first second, calls = first ++ second →
      (e.answerAll first (.start request) s).2.1.memo.Extends
        (e.answerAll calls (.start request) s).2.1.memo) ∧
    e.registry.Sound request (e.answerAll calls (.start request) s).2.1.memo ∧
    ∀ (ts : List Target) (x y : Resolution) (s₁ s₂ : σ) (out : Except Fault Unit),
      x.request = request → e.registry.Sound request x.memo → e.registry.Walk ts x s₁ out y s₂ →
        e.registry.Sound request y.memo ∧ x.memo.Extends y.memo := by
  have hstart := Registry.Settled.start e.registry request
  refine ⟨?_, ?_, ?_, ?_⟩
  · intro s₀
    exact answerAll_eq hbuilt hdet calls s s₀ hstart
  · rintro first second rfl
    rw [answerAll_append]
    obtain ⟨hfirst, _⟩ := answerAll_settled hbuilt hdet first s hstart
    exact (answerAll_settled hbuilt hdet second _ hfirst).2
  · exact (answerAll_settled hbuilt hdet calls s hstart).1.sound
  · intro ts x y s₁ s₂ out hrequest hsound hwalk
    have hkept := hwalk.kept hbuilt hrequest hsound
    exact ⟨hkept.sound, hkept.extend⟩

/-! ## A call behind one that fails -/

/-- A connector that fails after it has changed the world. -/
def primary : Connector Nat :=
  { id := "primary", dependencies := [], failover := some "secondary",
    resolve := fun _ _ n => (.error (.directory "unreachable"), n + 1),
    check := fun n => (.ok (), n) }

def secondary : Connector Nat :=
  .fixed ⟨⟨"secondary", []⟩, none⟩ [("mail", { id := "mail", values := [.string "a@b.example"] })]

/-- The definition `name` needs itself, once its first dependency has been resolved. -/
def selfish : Resolver Nat where
  id := "resolver"
  registry := ⟨[primary, secondary],
    [.copied ⟨⟨"mail", ["primary"]⟩, none, false⟩,
      .copied ⟨⟨"name", ["mail", "name"]⟩, none, false⟩], []⟩

theorem selfish_built : selfish.registry.Built :=
  .definition (d := .copied ⟨⟨"name", ["mail", "name"]⟩, none, false⟩)
    (.definition (d := .copied ⟨⟨"mail", ["primary"]⟩, none, false⟩)
      (.connector (c := secondary) (.connector (c := primary) .empty rfl) rfl) rfl) rfl

theorem selfish_deterministic : selfish.registry.Deterministic where
  connector c hc request m m' s s' _ := by
    fin_cases hc <;> rfl
  definition d hd request m m' s s' h := by
    fin_cases hd
    · exact Definition.derived_resolve_eq ⟨⟨"mail", ["primary"]⟩, none, false⟩ _ _ request s s' h
    · exact Definition.derived_resolve_eq ⟨⟨"name", ["mail", "name"]⟩, none, false⟩ _ _ request
        s s' h

theorem answerAll_transparent_selfish :
    selfish.registry.Built ∧ selfish.registry.Deterministic ∧
    (selfish.answer (.definition "name") (.start .empty) 7).1 =
      .error (.circularDependency "name -> name") ∧
    (selfish.answerAll [.definition "name", .connector "primary"] (.start .empty) 0).1 =
      [(selfish.answer (.definition "name") (.start .empty) 7).1,
        (selfish.answer (.connector "primary") (.start .empty) 7).1] := by
  obtain ⟨hanswers, _⟩ := answerAll_transparent selfish_built selfish_deterministic .empty
    [.definition "name", .connector "primary"] 0
  exact ⟨selfish_built, selfish_deterministic, rfl, hanswers 7⟩

end Resolver

end AttributeRelease
