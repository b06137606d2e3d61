import AttributeRelease.Proofs.Distinct
import AttributeRelease.Proofs.Resolution.Requested

/-!
# Attributes that come out

What comes out of a resolution are the attributes that were asked for, as far as definitions have
resolved to values for them, and they do not feed other plugins only.  Of equal values, the first
one stays.
-/

namespace AttributeRelease

variable {σ : Type}

/-! ## Steps for definitions -/

namespace Registry

variable {r : Registry σ} {request : Request} {x y : Resolution} {s s' : σ}

theorem definition?_of_extends {m m' : Memo} (h : m.Extends m') {id : String} {a : Attribute}
    (ha : m.definition? id = some a) : m'.definition? id = some a :=
  Memo.result?_definition.mp (result?_of_extends h (Memo.result?_definition.mpr ha))

/-- A definition yields what it answers itself. -/
theorem Yields.derived {id : String} {a : Attribute}
    (h : r.Yields request (.definition id) (.definition a)) :
    ∃ d m s s', r.definition? id = some d ∧ d.resolve request m s = (.ok a, s') := by
  generalize hb : Resolved.definition a = b at h
  cases h with
  | own work _ _ resolved =>
      obtain ⟨d, hd, rfl⟩ := Option.map_eq_some_iff.mp work
      obtain ⟨answer, hanswer, heq⟩ := Definition.answer_of_work resolved
      cases answer <;> cases hb <;> cases heq
      exact ⟨d, _, _, _, hd, hanswer⟩
  | replaced work _ _ _ other_eq _ => cases connector_of_failover work other_eq

theorem Sound.derived {m : Memo} (h : r.Sound request m) {id : String} {a : Attribute}
    (ha : m.definition? id = some a) :
    ∃ d m s s', r.definition? id = some d ∧ d.resolve request m s = (.ok a, s') :=
  (h.yields (Memo.result?_definition.mpr ha)).derived

/-- A definition is answered with what the memo has of it from then on.  If that is nothing, there
is no such definition. -/
theorem resolveDefinition_stays (hbuilt : r.Built) {id : String} {a : Option Attribute}
    {z : Resolution} (hx : r.Settled request x) (walk : r.Walk [.definition id] x s (.ok ()) y s')
    (value : y.memo.definition? id = a) (hz : r.Settled request z) (h : y.memo.Extends z.memo) :
    a = z.memo.definition? id := by
  cases a with
  | some a => exact (definition?_of_extends h value).symm
  | none =>
      cases ha : z.memo.definition? id with
      | none => rfl
      | some b =>
          obtain ⟨d, -, -, -, hd, -⟩ := hz.sound.derived ha
          have hkept := walk.kept hbuilt hx.request_eq hx.sound
          have hresult := hkept.results rfl _ List.mem_cons_self (by rw [work?_definition hd]; rfl)
          rw [Memo.result?, value] at hresult
          cases hresult

/-- Definitions are answered with what the memo has of them in the end. -/
theorem each_resolveDefinition (hbuilt : r.Built) {ids : List String}
    {resolved : List (String × Option Attribute)} (hx : r.Settled request x)
    (h : Resolution.each r.resolveDefinition ids x s = (.ok resolved, y, s')) :
    resolved = (ids.map fun id => (id, y.memo.definition? id)) ∧
      r.Settled request y ∧ x.memo.Extends y.memo := by
  induction ids generalizing x s resolved with
  | nil =>
      cases h
      exact ⟨rfl, hx, .refl _⟩
  | cons id rest ih =>
      rw [Resolution.each] at h
      rcases (r.resolveDefinition_follows id s hx.atRest).inv with
        ⟨a, z, t, heq, walk, value⟩ | ⟨f, z, t, heq, -⟩
      · simp only [heq] at h
        obtain ⟨hz, hext⟩ := walk.settled hbuilt hx
        rcases hmore : Resolution.each r.resolveDefinition rest z t with ⟨_ | more, v, u⟩
        · simp only [hmore] at h
          cases h
        · simp only [hmore] at h
          cases h
          obtain ⟨rfl, hy, hext'⟩ := ih hz hmore
          refine ⟨?_, hy, hext.trans hext'⟩
          rw [List.map_cons, ← resolveDefinition_stays hbuilt hx walk value hy hext']
      · simp only [heq] at h
        cases h

end Registry

/-! ## Outcomes -/

namespace Resolver

variable {e : Resolver σ} {request : Request}

theorem nodup_ids_putOutcome {m : AttributeMap} (h : m.ids.Nodup) (e : Resolver σ) (id : String)
    (a : Option Attribute) : (e.putOutcome m id a).ids.Nodup := by
  rw [putOutcome]
  cases e.outcomeOf id a with
  | none => exact h
  | some b => exact AttributeMap.nodup_ids_insert h id b

theorem nodup_ids_outcome (e : Resolver σ) (resolved : List (String × Option Attribute)) :
    (e.outcome resolved).ids.Nodup := by
  have hfold : ∀ m : AttributeMap, m.ids.Nodup →
      (resolved.foldl (fun m entry => e.putOutcome m entry.1 entry.2) m).ids.Nodup := by
    induction resolved with
    | nil => exact fun m h => h
    | cons entry rest ih => exact fun m h => ih _ (nodup_ids_putOutcome h e entry.1 entry.2)
  rw [outcome_eq_foldl]
  exact hfold [] List.nodup_nil

/-- What comes out for a definition. -/
theorem outcomeOf_eq_some_iff {id : String} {d : Definition σ}
    (hd : e.registry.definition? id = some d) {a : Option Attribute} {b : Attribute} :
    e.outcomeOf id a = some b ↔
      d.dependencyOnly = false ∧ ∃ a', a = some a' ∧ a'.values ≠ [] ∧ b = a'.dedup := by
  cases a with
  | none => simp [outcomeOf]
  | some a =>
      simp only [outcomeOf, Option.bind_some, isDependencyOnly, hd, Option.any_some,
        Attribute.isEmpty, ite_eq_iff, Bool.or_eq_true, List.isEmpty_iff]
      constructor
      · rintro (⟨-, h⟩ | ⟨hneither, h⟩)
        · cases h
        · cases h
          rw [not_or, Bool.not_eq_true] at hneither
          exact ⟨hneither.1, a, rfl, hneither.2, rfl⟩
      · rintro ⟨honly, a', ha', hvalues, rfl⟩
        cases ha'
        exact .inr ⟨by simp [honly, hvalues], rfl⟩

/-- What comes out under an id is what comes out for the attribute that the memo has in the end, if
the id was asked for. -/
theorem get?_resolveIn (hbuilt : e.registry.Built) {x y : Resolution} {s s' : σ}
    {m : AttributeMap} (hx : e.registry.Settled request x)
    (h : e.resolveIn x s = (.ok m, y, s')) :
    m.ids.Nodup ∧ e.registry.Settled request y ∧ ∀ id, m.get? id =
      if id ∈ e.requested request then e.outcomeOf id (y.memo.definition? id) else none := by
  rw [resolveIn, hx.request_eq] at h
  split at h
  · next hempty =>
      cases h
      refine ⟨List.nodup_nil, hx, fun id => ?_⟩
      cases ha : x.memo.definition? id with
      | none => split <;> rfl
      | some a =>
          obtain ⟨d, -, -, -, hd, -⟩ := hx.sound.derived ha
          rw [Registry.definition?, List.isEmpty_iff.mp hempty] at hd
          cases hd
  · rcases heach : Resolution.each e.registry.resolveDefinition (e.requested request) x s with
      ⟨_ | resolved, z, t⟩
    · simp only [heach] at h
      cases h
    · simp only [heach] at h
      cases h
      obtain ⟨rfl, hy, -⟩ := Registry.each_resolveDefinition hbuilt hx heach
      refine ⟨nodup_ids_outcome e _, hy, fun id => ?_⟩
      exact get?_outcome e (fun id => y.memo.definition? id) (e.requested request) id

/-- Every registered definition that was asked for has resolved, as it answers itself. -/
theorem derived_of_resolveIn (hbuilt : e.registry.Built) {x y : Resolution} {s s' : σ}
    {m : AttributeMap} (hx : e.registry.Settled request x)
    (h : e.resolveIn x s = (.ok m, y, s')) {id : String} (hid : id ∈ e.requested request)
    {d : Definition σ} (hd : e.registry.definition? id = some d) :
    ∃ a memo s₁ s₂, y.memo.definition? id = some a ∧ d.resolve request memo s₁ = (.ok a, s₂) := by
  rcases (e.resolveIn_follows s hx.atRest).inv with
    ⟨_, z, t, heq, walk, -⟩ | ⟨f, z, t, heq, -⟩
  · rw [h] at heq
    cases heq
    rw [asked, hx.request_eq] at walk
    have hkept := walk.kept hbuilt hx.request_eq hx.sound
    have hwork := Option.isSome_of_eq_some (Registry.work?_definition hd)
    have hresult := hkept.results rfl _ (List.mem_map_of_mem hid) hwork
    rw [Memo.result?, Option.isSome_map] at hresult
    obtain ⟨a, ha⟩ := Option.isSome_iff_exists.mp hresult
    obtain ⟨d', memo, s₁, s₂, hd', hresolved⟩ := hkept.sound.derived ha
    rw [hd] at hd'
    cases hd'
    exact ⟨a, memo, s₁, s₂, ha, hresolved⟩
  · rw [h] at heq
    cases heq

theorem mem_requested_iff {id : String} {d : Definition σ}
    (hd : e.registry.definition? id = some d) :
    id ∈ e.requested request ↔ request.requestedIds = [] ∨ id ∈ request.requestedIds := by
  have hregistered : id ∈ e.registry.definitionIds :=
    (Registry.isSome_definition? _ id).mp (Option.isSome_of_eq_some hd)
  rw [requested]
  cases request.requestedIds with
  | nil => exact iff_of_true hregistered (.inl rfl)
  | cons first rest => exact (or_iff_right (List.cons_ne_nil first rest)).symm

theorem get?_resolveIn_eq_some_iff (hbuilt : e.registry.Built) {x y : Resolution} {s s' : σ}
    {m : AttributeMap} (hx : e.registry.Settled request x)
    (h : e.resolveIn x s = (.ok m, y, s')) {id : String} {b : Attribute} :
    m.get? id = some b ↔ (request.requestedIds = [] ∨ id ∈ request.requestedIds) ∧
      (∃ d, e.registry.definition? id = some d ∧ d.dependencyOnly = false) ∧
      ∃ a, y.memo.definition? id = some a ∧ a.values ≠ [] ∧ b = a.dedup := by
  obtain ⟨-, hy, hget⟩ := get?_resolveIn hbuilt hx h
  rw [hget, ite_eq_iff]
  constructor
  · rintro (⟨hid, hout⟩ | ⟨-, hnone⟩)
    · cases ha : y.memo.definition? id with
      | none =>
          rw [ha] at hout
          cases hout
      | some a =>
          obtain ⟨d, -, -, -, hd, -⟩ := hy.sound.derived ha
          obtain ⟨honly, hvalues⟩ := (outcomeOf_eq_some_iff hd).mp hout
          rw [ha] at hvalues
          exact ⟨(mem_requested_iff hd).mp hid, ⟨d, hd, honly⟩, hvalues⟩
    · cases hnone
  · rintro ⟨hid, ⟨d, hd, honly⟩, hvalues⟩
    exact .inl ⟨(mem_requested_iff hd).mpr hid, (outcomeOf_eq_some_iff hd).mpr ⟨honly, hvalues⟩⟩

/-- If a request is answered, every registered definition that it asks for has resolved to an
attribute.  The answer has the attributes among these that have values and do not feed other plugins
only, with each of their values once, in the order of their first occurrences. -/
theorem resolve_released (hbuilt : e.registry.Built) {s s' : σ} {m : AttributeMap}
    (h : e.resolve request s = (.ok m, s')) :
    ∃ y, e.resolveIn (.start request) s = (.ok m, y, s') ∧
      (∀ id ∈ e.requested request, ∀ d, e.registry.definition? id = some d →
        ∃ a memo s₁ s₂, y.memo.definition? id = some a ∧
          d.resolve request memo s₁ = (.ok a, s₂)) ∧
      m.ids.Nodup ∧
      (∀ id, id ∈ m.ids ↔ (request.requestedIds = [] ∨ id ∈ request.requestedIds) ∧
        (∃ d, e.registry.definition? id = some d ∧ d.dependencyOnly = false) ∧
        ∃ a, y.memo.definition? id = some a ∧ a.values ≠ []) ∧
      ∀ id b, m.get? id = some b → ∃ a, y.memo.definition? id = some a ∧ b = a.dedup ∧
        b.values ≠ [] ∧ b.values.Nodup ∧ FirstOccurrences a.values b.values := by
  have hx := Registry.Settled.start e.registry request
  rw [resolve] at h
  rcases hin : e.resolveIn (.start request) s with ⟨result, y, t⟩
  rw [hin] at h
  cases h
  have hget : ∀ {id : String} {b : Attribute}, m.get? id = some b ↔ _ :=
    get?_resolveIn_eq_some_iff hbuilt hx hin
  refine ⟨y, rfl, fun id hid d hd => derived_of_resolveIn hbuilt hx hin hid hd,
    (get?_resolveIn hbuilt hx hin).1, fun id => ?_, ?_⟩
  · rw [AttributeMap.mem_ids_iff]
    constructor
    · rintro ⟨b, hb⟩
      obtain ⟨hid, hd, a, ha, hvalues, -⟩ := hget.mp hb
      exact ⟨hid, hd, a, ha, hvalues⟩
    · rintro ⟨hid, hd, a, ha, hvalues⟩
      exact ⟨a.dedup, hget.mpr ⟨hid, hd, a, ha, hvalues, rfl⟩⟩
  · intro id b hb
    obtain ⟨-, -, a, ha, hvalues, rfl⟩ := hget.mp hb
    have hfirst := firstOccurrences_keepFirst a.values
    obtain ⟨v, hv⟩ := List.exists_mem_of_ne_nil a.values hvalues
    exact ⟨a, ha, rfl, List.ne_nil_of_mem ((hfirst.members v).mpr hv), nodup_keepFirst a.values,
      hfirst⟩

/-! ## A request for all kinds of ids -/

/-- What the directory has of somebody: an address that it has twice, a number, and no telephone. -/
def entry : Connector Unit :=
  .fixed ⟨⟨"entry", []⟩, none⟩
    [("mail", ⟨"mail", [.string "b@x", .string "a@x", .string "b@x"], none⟩),
      ("number", ⟨"number", [.string "7"], none⟩)]

def entryDefinition (id : String) (dependencyOnly : Bool) : Definition Unit :=
  .copied ⟨⟨id, ["entry"]⟩, none, dependencyOnly⟩

def cards : Resolver Unit where
  id := "resolver"
  registry := ⟨[entry], [entryDefinition "mail" false, entryDefinition "number" true,
    entryDefinition "telephone" false], []⟩

theorem cards_built : cards.registry.Built :=
  .definition (d := entryDefinition "telephone" false)
    (.definition (d := entryDefinition "number" true)
      (.definition (d := entryDefinition "mail" false)
        (.connector (c := entry) .empty rfl) rfl) rfl) rfl

/-- Asks twice for one attribute, and also for one that feeds others only, for one without values,
for a connector and for nothing that there is. -/
def cardRequest : Request :=
  Request.empty.asking ["mail", "number", "telephone", "entry", "nobody", "mail"]

def addresses : Attribute := ⟨"mail", [.string "b@x", .string "a@x"], none⟩

theorem resolve_released_cards :
    cards.registry.Built ∧ cards.resolve cardRequest () = (.ok [("mail", addresses)], ()) ∧
    ∃ y, cards.resolveIn (.start cardRequest) () = (.ok [("mail", addresses)], y, ()) ∧
      (∃ a, y.memo.definition? "mail" = some a ∧ FirstOccurrences a.values addresses.values) ∧
      ¬ ∃ a, y.memo.definition? "telephone" = some a ∧ a.values ≠ [] := by
  have hanswer : cards.resolve cardRequest () = (.ok [("mail", addresses)], ()) := rfl
  obtain ⟨y, hin, -, -, hids, hvalues⟩ := resolve_released cards_built hanswer
  refine ⟨cards_built, hanswer, y, hin, ?_, ?_⟩
  · obtain ⟨a, ha, -, -, -, hfirst⟩ := hvalues "mail" _ rfl
    exact ⟨a, ha, hfirst⟩
  · intro htelephone
    have hmem := (hids "telephone").mpr ⟨.inr (by decide), ⟨_, rfl, rfl⟩, htelephone⟩
    exact absurd hmem (by decide)

end Resolver

end AttributeRelease
