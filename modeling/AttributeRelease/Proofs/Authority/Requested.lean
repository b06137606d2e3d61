import AttributeRelease.Authority
import AttributeRelease.Proofs.Release.Unnamed
import AttributeRelease.Proofs.Resolution.Requested

/-!
# Releases of some of the attributes

An authority can be asked for all attributes or for some.  Where its plugins do not look at which,
and its criteria name no attribute, whoever asks for fewer is told less, and nothing else.
-/

namespace AttributeRelease

variable {σ : Type}

/-- Criteria that name no attribute do not see which attributes are asked for. -/
theorem Facts.SameRequest.asking (request : Request) (ids ids' : List String)
    (attributes attributes' : AttributeMap) :
    Facts.SameRequest ⟨attributes, request.asking ids⟩ ⟨attributes', request.asking ids'⟩ where
  field field := by cases field <;> rfl
  metadata party := by cases party <;> rfl

namespace Authority

variable {a : Authority σ} {request : Request}

theorem release_eq_ok_iff {s : σ} {m : AttributeMap} :
    (a.release request s).1 = .ok m ↔
      ∃ attributes, (a.resolver.resolve request s).1 = .ok attributes ∧
        (a.engine.filter attributes request (a.resolver.resolve request s).2).1 = .ok m := by
  rw [release]
  rcases a.resolver.resolve request s with ⟨_ | attributes, t⟩
  · simp
  · rcases hfilter : a.engine.filter attributes request t with ⟨_ | released, u⟩ <;>
      simp [hfilter]

/-- Where everything that there is to release can be released, it can be released in part: each
attribute that is asked for, however often, comes with the values that it has among all of them. -/
theorem release_asking (hbuilt : a.resolver.registry.Built)
    (hdet : a.resolver.registry.Deterministic)
    (hignores : a.resolver.registry.IgnoresRequested)
    (hunnamed : ∀ p ∈ a.engine.policies, p.Unnamed) {ids : List String} (hids : ids ≠ []) {s : σ}
    {m : AttributeMap} (h : (a.release (request.asking []) s).1 = .ok m) (s' : σ) :
    ∃ m', (a.release (request.asking ids) s').1 = .ok m' ∧ m'.ids.Nodup ∧
      ∀ id, m'.get? id = if id ∈ ids then m.get? id else none := by
  obtain ⟨attributes, hresolve, hfilter⟩ := release_eq_ok_iff.mp h
  obtain ⟨attributes', hresolve', hattributes⟩ :=
    Resolver.resolve_asking hbuilt hdet hignores hids hresolve s'
  obtain ⟨m', hfilter', hnodup, hget⟩ :=
    ReleaseEngine.filter_restrict hunnamed (.asking request [] ids attributes attributes')
      hattributes hfilter (a.resolver.resolve (request.asking ids) s').2
  exact ⟨m', release_eq_ok_iff.mpr ⟨attributes', hresolve', congrArg Prod.fst hfilter'⟩, hnodup,
    hget⟩

/-! ## An authority behind a connector that fails -/

/-- The mail address comes from the connector that stands in for a failing one, and the name is a
copy of it. -/
def portal : Authority Nat where
  resolver := {
    id := "resolver"
    registry := ⟨[Resolver.primary, Resolver.secondary],
      [.copied ⟨⟨"mail", ["primary"]⟩, none, false⟩,
        .copied ⟨⟨"name", ["mail"]⟩, some "mail", false⟩], []⟩ }
  engine := {
    id := "release"
    policies := [
      { id := "portal", requirement := .not (.request .requester (.exact "guest" true)),
        rules := [
          { target := "mail", permit := some .always },
          { target := "name", permit := some (.value none (.exact "a@b.example" true)) }] }] }

theorem portal_built : portal.resolver.registry.Built :=
  .definition (d := .copied ⟨⟨"name", ["mail"]⟩, some "mail", false⟩)
    (.definition (d := .copied ⟨⟨"mail", ["primary"]⟩, none, false⟩)
      (.connector (c := Resolver.secondary) (.connector (c := Resolver.primary) .empty rfl) rfl)
      rfl) rfl

theorem portal_deterministic : portal.resolver.registry.Deterministic where
  connector c hc request m m' s s' _ := by
    fin_cases hc <;> rfl
  definition d hd request m m' s s' h := by
    fin_cases hd
    · exact Definition.derived_resolve_eq ⟨⟨"mail", ["primary"]⟩, none, false⟩ _ _ request s s' h
    · exact Definition.derived_resolve_eq ⟨⟨"name", ["mail"]⟩, some "mail", false⟩ _ _ request
        s s' h

theorem portal_ignoresRequested : portal.resolver.registry.IgnoresRequested where
  connector c hc request ids m s := by
    fin_cases hc <;> rfl
  definition d hd request ids m s := by
    fin_cases hd <;> rfl

theorem portal_unnamed : ∀ p ∈ portal.engine.policies, p.Unnamed := by
  intro p hp
  fin_cases hp
  refine ⟨.not (.request _ _), fun r hr => ?_⟩
  fin_cases hr
  · constructor <;> rintro c ⟨⟩
    exact .always
  · constructor <;> rintro c ⟨⟩
    exact .value _

/-- A request that the policy of the authority applies to. -/
def wiki : Request := { principalName := some "alice", requester := some "wiki" }

/-- Everything that is released for it. -/
def released : AttributeMap :=
  [("mail", { id := "mail", values := [.string "a@b.example"] }),
    ("name", { id := "name", values := [.string "a@b.example"] })]

theorem release_asking_portal :
    portal.resolver.registry.Built ∧ portal.resolver.registry.Deterministic ∧
    portal.resolver.registry.IgnoresRequested ∧ (∀ p ∈ portal.engine.policies, p.Unnamed) ∧
    ["name", "unknown", "name"] ≠ [] ∧ (portal.release (wiki.asking []) 0).1 = .ok released ∧
    ∃ m, (portal.release (wiki.asking ["name", "unknown", "name"]) 5).1 = .ok m ∧
      m.get? "name" = released.get? "name" ∧ m.get? "mail" = none ∧ m.get? "unknown" = none := by
  have hreleased : (portal.release (wiki.asking []) 0).1 = .ok released := rfl
  have hids : ["name", "unknown", "name"] ≠ [] := List.cons_ne_nil _ _
  obtain ⟨m, hm, -, hget⟩ := release_asking portal_built portal_deterministic
    portal_ignoresRequested portal_unnamed hids hreleased 5
  exact ⟨portal_built, portal_deterministic, portal_ignoresRequested, portal_unnamed, hids,
    hreleased, m, hm, hget "name", hget "mail", hget "unknown"⟩

end Authority

end AttributeRelease
