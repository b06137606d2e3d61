import AttributeRelease.Registry.Basic
import AttributeRelease.Resolution.Memo
import Mathlib.Data.List.Perm.Subperm

/-!
# Targets

What a resolution can be after: the result of a connector, or that of a definition.  Seen from
there, all plugins do the same kind of work.
-/

namespace AttributeRelease

variable {σ : Type}

/-- A plugin that is to be resolved. -/
inductive Target
  | connector (id : String)
  | definition (id : String)
deriving DecidableEq

def Target.id : Target → String
  | .connector id | .definition id => id

/-- The result that a plugin has. -/
def Memo.result? (m : Memo) : Target → Option Resolved
  | .connector id => (m.connector? id).map .connector
  | .definition id => (m.definition? id).map .definition

/-- Whether a result is one of a connector or of a definition, as the plugin is. -/
def Resolved.Suits : Resolved → Target → Prop
  | .connector _, .connector _ => True
  | .definition _, .definition _ => True
  | _, _ => False

theorem Memo.result?_of_suits {m : Memo} {t : Target} {a : Resolved}
    (h : m.get? t.id = some a) (ha : a.Suits t) : m.result? t = some a := by
  cases t <;> cases a
  · rw [Target.id] at h
    rw [result?, connector?, h]
    rfl
  · exact ha.elim
  · exact ha.elim
  · rw [Target.id] at h
    rw [result?, definition?, h]
    rfl

theorem Memo.get?_of_result? {m : Memo} {t : Target} {a : Resolved} (h : m.result? t = some a) :
    m.get? t.id = some a ∧ a.Suits t := by
  cases t with
  | connector id =>
      obtain ⟨c, hc, rfl⟩ := Option.map_eq_some_iff.mp h
      rw [connector?] at hc
      split at hc
      · next heq =>
          cases hc
          exact ⟨heq, trivial⟩
      · cases hc
  | definition id =>
      obtain ⟨a, ha, rfl⟩ := Option.map_eq_some_iff.mp h
      rw [definition?] at ha
      split at ha
      · next heq =>
          cases ha
          exact ⟨heq, trivial⟩
      · cases ha

theorem Memo.result?_connector {m : Memo} {id : String} {c : Sourced} :
    m.result? (.connector id) = some (.connector c) ↔ m.connector? id = some c := by
  rw [result?, Option.map_eq_some_iff]
  constructor
  · rintro ⟨b, hb, heq⟩
    cases heq
    exact hb
  · exact fun hc => ⟨c, hc, rfl⟩

theorem Memo.result?_definition {m : Memo} {id : String} {a : Attribute} :
    m.result? (.definition id) = some (.definition a) ↔ m.definition? id = some a := by
  rw [result?, Option.map_eq_some_iff]
  constructor
  · rintro ⟨b, hb, heq⟩
    cases heq
    exact hb
  · exact fun ha => ⟨a, ha, rfl⟩

theorem Memo.result?_connector_eq_none {m : Memo} {id : String} :
    m.result? (.connector id) = none ↔ m.connector? id = none := by
  rw [result?, Option.map_eq_none_iff]

theorem Target.eq_of_suits {t u : Target} {a : Resolved} (ht : a.Suits t) (hu : a.Suits u)
    (h : t.id = u.id) : t = u := by
  cases t <;> cases u <;> cases a <;> first | exact ht.elim | exact hu.elim | exact congrArg _ h

/-- What a plugin does, whether it is a connector or a definition. -/
structure Work (σ : Type) where
  dependencies : List String
  failover : Option String
  resolve : Request → Memo → σ → Except ResolutionError Resolved × σ

def Connector.work (c : Connector σ) : Work σ where
  dependencies := c.dependencies
  failover := c.failover
  resolve request memo s :=
    ((c.resolve request memo s).1.map fun attributes => .connector ⟨c.id, attributes⟩,
      (c.resolve request memo s).2)

def Definition.work (d : Definition σ) : Work σ where
  dependencies := d.dependencies
  failover := none
  resolve request memo s :=
    ((d.resolve request memo s).1.map .definition, (d.resolve request memo s).2)

theorem Connector.work_resolve {c : Connector σ} {request : Request} {m : Memo} {s s' : σ}
    {result : Except ResolutionError AttributeMap} (h : c.resolve request m s = (result, s')) :
    c.work.resolve request m s =
      (result.map fun attributes => .connector ⟨c.id, attributes⟩, s') := by
  change ((c.resolve request m s).1.map _, (c.resolve request m s).2) = _
  rw [h]

theorem Definition.work_resolve {d : Definition σ} {request : Request} {m : Memo} {s s' : σ}
    {result : Except ResolutionError Attribute} (h : d.resolve request m s = (result, s')) :
    d.work.resolve request m s = (result.map .definition, s') := by
  change ((d.resolve request m s).1.map _, (d.resolve request m s).2) = _
  rw [h]

/-- What a connector does as a plugin is what it answers. -/
theorem Connector.answer_of_work {c : Connector σ} {request : Request} {m : Memo} {s s' : σ}
    {result : Except ResolutionError Resolved} (h : c.work.resolve request m s = (result, s')) :
    ∃ answer, c.resolve request m s = (answer, s') ∧
      result = answer.map fun attributes => .connector ⟨c.id, attributes⟩ := by
  change ((c.resolve request m s).1.map _, (c.resolve request m s).2) = _ at h
  cases h
  exact ⟨_, rfl, rfl⟩

theorem Definition.answer_of_work {d : Definition σ} {request : Request} {m : Memo} {s s' : σ}
    {result : Except ResolutionError Resolved} (h : d.work.resolve request m s = (result, s')) :
    ∃ answer, d.resolve request m s = (answer, s') ∧ result = answer.map .definition := by
  change ((d.resolve request m s).1.map _, (d.resolve request m s).2) = _ at h
  cases h
  exact ⟨_, rfl, rfl⟩

namespace Registry

def work? (r : Registry σ) : Target → Option (Work σ)
  | .connector id => (r.connector? id).map (·.work)
  | .definition id => (r.definition? id).map (·.work)

theorem work?_connector {r : Registry σ} {id : String} {c : Connector σ}
    (h : r.connector? id = some c) : r.work? (.connector id) = some c.work := by
  rw [work?, h]
  rfl

theorem work?_definition {r : Registry σ} {id : String} {d : Definition σ}
    (h : r.definition? id = some d) : r.work? (.definition id) = some d.work := by
  rw [work?, h]
  rfl

theorem id_of_connector? {r : Registry σ} {id : String} {c : Connector σ}
    (h : r.connector? id = some c) : c.id = id := by
  simpa using List.find?_some h

/-- The plugin that an id names, if there is one. -/
def target? (r : Registry σ) (id : String) : Option Target :=
  if (r.connector? id).isSome then some (.connector id)
  else if (r.definition? id).isSome then some (.definition id)
  else none

/-- The plugins that ids name; ids that no plugin has are left out. -/
def targets (r : Registry σ) (ids : List String) : List Target := ids.filterMap r.target?

theorem id_of_target? {r : Registry σ} {id : String} {t : Target} (h : r.target? id = some t) :
    t.id = id := by
  rw [target?] at h
  split at h
  · cases h
    rfl
  · split at h
    · cases h
      rfl
    · cases h

theorem work?_of_target? {r : Registry σ} {id : String} {t : Target}
    (h : r.target? id = some t) : (r.work? t).isSome := by
  rw [target?] at h
  split at h
  · next hc =>
      cases h
      rw [work?, Option.isSome_map]
      exact hc
  · split at h
    · next hd =>
        cases h
        rw [work?, Option.isSome_map]
        exact hd
    · cases h

theorem isSome_target? (r : Registry σ) (id : String) :
    (r.target? id).isSome = r.contains id := by
  rw [target?, contains]
  cases (r.connector? id).isSome <;> cases (r.definition? id).isSome <;> rfl

theorem contains_id_of_work? {r : Registry σ} {t : Target} (h : (r.work? t).isSome) :
    r.contains t.id = true := by
  cases t with
  | connector id =>
      rw [work?, Option.isSome_map] at h
      rw [contains, Target.id, h]
      rfl
  | definition id =>
      rw [work?, Option.isSome_map] at h
      rw [contains, Target.id, h, Bool.or_true]

theorem mem_targets {r : Registry σ} {ids : List String} {t : Target} :
    t ∈ r.targets ids ↔ ∃ id ∈ ids, r.target? id = some t := List.mem_filterMap

/-- A connector has results of connectors, and a definition those of definitions. -/
theorem suits_of_resolve {r : Registry σ} {request : Request} {t : Target} {w : Work σ}
    (hw : r.work? t = some w) {m : Memo} {s s' : σ} {a : Resolved}
    (h : w.resolve request m s = (.ok a, s')) : a.Suits t := by
  cases t with
  | connector id =>
      obtain ⟨c, _, rfl⟩ := Option.map_eq_some_iff.mp hw
      obtain ⟨answer, -, hanswer⟩ := Connector.answer_of_work h
      cases answer <;> cases hanswer
      trivial
  | definition id =>
      obtain ⟨d, _, rfl⟩ := Option.map_eq_some_iff.mp hw
      obtain ⟨answer, -, hanswer⟩ := Definition.answer_of_work h
      cases answer <;> cases hanswer
      trivial

theorem connector_of_failover {r : Registry σ} {t : Target} {w : Work σ} (hw : r.work? t = some w)
    {other : String} (h : w.failover = some other) : t = .connector t.id := by
  cases t with
  | connector id => rfl
  | definition id =>
      obtain ⟨d, _, rfl⟩ := Option.map_eq_some_iff.mp hw
      cases h

/-! ## Ids of plugins -/

/-- The ids that dependencies can name. -/
def pluginIds (r : Registry σ) : List String := r.connectorIds ++ r.definitionIds

theorem length_pluginIds (r : Registry σ) : r.pluginIds.length = r.size := by
  rw [pluginIds, connectorIds, definitionIds, List.length_append, List.length_map,
    List.length_map, size]

theorem isSome_connector? (r : Registry σ) (id : String) :
    (r.connector? id).isSome = true ↔ id ∈ r.connectorIds := by
  rw [connector?, List.find?_isSome, connectorIds, List.mem_map]
  simp only [beq_iff_eq]

theorem isSome_definition? (r : Registry σ) (id : String) :
    (r.definition? id).isSome = true ↔ id ∈ r.definitionIds := by
  rw [definition?, List.find?_isSome, definitionIds, List.mem_map]
  simp only [beq_iff_eq]

theorem contains_iff_mem_pluginIds {r : Registry σ} {id : String} :
    r.contains id = true ↔ id ∈ r.pluginIds := by
  rw [contains, Bool.or_eq_true, isSome_connector?, isSome_definition?, pluginIds,
    List.mem_append]

/-- Plugins that are entered one after the other, none twice, are no more than there are. -/
theorem length_le_size {r : Registry σ} {ids : List String} (hnodup : ids.Nodup)
    (h : ∀ id ∈ ids, r.contains id = true) : ids.length ≤ r.size := by
  rw [← length_pluginIds]
  have hsubset : ids ⊆ r.pluginIds := fun id hid => contains_iff_mem_pluginIds.mp (h id hid)
  exact (List.subperm_of_subset hnodup hsubset).length_le

/-! ## Built registries -/

/-- A registry that plugins were added to one after the other. -/
inductive Built : Registry σ → Prop
  | empty : Built .empty
  | connector {r r' : Registry σ} {c : Connector σ} (built : Built r)
      (added : r.addConnector c = .ok r') : Built r'
  | definition {r r' : Registry σ} {d : Definition σ} (built : Built r)
      (added : r.addDefinition d = .ok r') : Built r'
  | principal {r r' : Registry σ} {p : PrincipalConnector σ} (built : Built r)
      (added : r.addPrincipal p = .ok r') : Built r'

/-- No two plugins of a registry that was built have one id. -/
theorem Built.nodup {r : Registry σ} (h : r.Built) : r.pluginIds.Nodup := by
  induction h with
  | empty => exact List.nodup_nil
  | @connector r r' c _ added ih =>
      rw [addConnector] at added
      split at added
      · cases added
      · next hnew =>
          cases added
          rw [contains_iff_mem_pluginIds] at hnew
          have hperm : (c.id :: r.pluginIds).Perm
              (pluginIds { r with connectors := r.connectors ++ [c] }) := by
            rw [pluginIds, pluginIds, connectorIds, connectorIds, List.map_append,
              List.append_assoc]
            exact List.perm_middle.symm
          exact hperm.nodup_iff.mp (List.nodup_cons.mpr ⟨hnew, ih⟩)
  | @definition r r' d _ added ih =>
      rw [addDefinition] at added
      split at added
      · cases added
      · next hnew =>
          cases added
          rw [contains_iff_mem_pluginIds] at hnew
          have hperm : (d.id :: r.pluginIds).Perm
              (pluginIds { r with definitions := r.definitions ++ [d] }) := by
            rw [pluginIds, pluginIds, definitionIds, definitionIds, List.map_append,
              ← List.append_assoc]
            exact (List.perm_append_singleton d.id _).symm
          exact hperm.nodup_iff.mp (List.nodup_cons.mpr ⟨hnew, ih⟩)
  | principal _ added ih =>
      rw [addPrincipal] at added
      split at added
      · cases added
      · cases added
        exact ih

/-- In a registry that was built, a plugin is what its id names. -/
theorem Built.target?_eq {r : Registry σ} (h : r.Built) {t : Target} (ht : (r.work? t).isSome) :
    r.target? t.id = some t := by
  have hdisjoint := (List.nodup_append.mp h.nodup).2.2
  cases t with
  | connector id =>
      rw [work?, Option.isSome_map] at ht
      rw [target?, Target.id, if_pos ht]
  | definition id =>
      rw [work?, Option.isSome_map] at ht
      have hnot : ¬ (r.connector? id).isSome = true := by
        intro hc
        exact hdisjoint id ((isSome_connector? r id).mp hc) id ((isSome_definition? r id).mp ht) rfl
      rw [target?, Target.id, if_neg hnot, if_pos ht]

end Registry

end AttributeRelease
