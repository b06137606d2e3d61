import AttributeRelease.Proofs.Registry.Acceptance

/-!
# Additions to registries

Plugins are offered to a registry one after the other, and whether one is refused or not, the next
one is offered all the same.  Through every such history each id is that of one plugin only, so that
the graph of the plugins can always be made.  It has them all as its nodes, and from each of them an
edge to every other plugin that it names, once.
-/

namespace AttributeRelease

variable {σ : Type}

/-! ## What is offered -/

/-- What can be taken in a registry.  Connectors and definitions share their ids, and principal
connectors have ids of their own. -/
inductive Plugin.Place
  | plugin (id : String)
  | principal (id : String)

namespace Plugin

def Place.id : Place → String
  | .plugin id | .principal id => id

/-- What a plugin takes. -/
def place : Plugin σ → Place
  | .connector c => .plugin c.id
  | .definition d => .plugin d.id
  | .principal p => .principal p.id

def principal? : Plugin σ → Option (PrincipalConnector σ)
  | .principal p => some p
  | _ => none

end Plugin

namespace Registry

open Plugin (Place)

/-- What comes of an attempt to add a plugin, and the registry afterwards. -/
def offer (r : Registry σ) (p : Plugin σ) : Except ResolutionError Unit × Registry σ :=
  match r.add p with
  | .ok r' => (.ok (), r')
  | .error e => (.error e, r)

/-- The registry after plugins have been offered to it, each one whatever came of those before. -/
def offerAll (r : Registry σ) (offered : List (Plugin σ)) : Registry σ :=
  offered.foldl (fun r p => (r.offer p).2) r

/-- The registry with a plugin behind those of its kind. -/
def append (r : Registry σ) : Plugin σ → Registry σ
  | .connector c => { r with connectors := r.connectors ++ [c] }
  | .definition d => { r with definitions := r.definitions ++ [d] }
  | .principal p => { r with principals := r.principals ++ [p] }

/-- What the plugins of a registry take. -/
def places (r : Registry σ) : List Place :=
  r.pluginIds.map .plugin ++ r.principalIds.map .principal

/-! ## One plugin -/

section Offer

variable {r : Registry σ} {p : Plugin σ}

theorem mem_places_plugin {id : String} : .plugin id ∈ r.places ↔ id ∈ r.pluginIds := by
  simp only [places, List.mem_append, List.mem_map, Place.plugin.injEq, exists_eq_right,
    reduceCtorEq, and_false, exists_false, or_false]

theorem mem_places_principal {id : String} : .principal id ∈ r.places ↔ id ∈ r.principalIds := by
  simp only [places, List.mem_append, List.mem_map, Place.principal.injEq, exists_eq_right,
    reduceCtorEq, and_false, exists_false, false_or]

theorem add_of_mem (h : p.place ∈ r.places) :
    r.add p = .error (.duplicatePlugin p.place.id) := by
  cases p with
  | connector c =>
      exact if_pos (contains_iff_mem_pluginIds.mpr (mem_places_plugin.mp h))
  | definition d =>
      exact if_pos (contains_iff_mem_pluginIds.mpr (mem_places_plugin.mp h))
  | principal p =>
      exact if_pos (List.contains_iff_mem.mpr (mem_places_principal.mp h))

theorem add_of_not_mem (h : p.place ∉ r.places) : r.add p = .ok (r.append p) := by
  cases p with
  | connector c =>
      exact if_neg fun hin => h (mem_places_plugin.mpr (contains_iff_mem_pluginIds.mp hin))
  | definition d =>
      exact if_neg fun hin => h (mem_places_plugin.mpr (contains_iff_mem_pluginIds.mp hin))
  | principal p =>
      exact if_neg fun hin => h (mem_places_principal.mpr (List.contains_iff_mem.mp hin))

theorem offer_of_mem (h : p.place ∈ r.places) :
    r.offer p = (.error (.duplicatePlugin p.place.id), r) := by
  rw [offer, add_of_mem h]

theorem offer_of_not_mem (h : p.place ∉ r.places) : r.offer p = (.ok (), r.append p) := by
  rw [offer, add_of_not_mem h]

/-- One place more is taken. -/
theorem places_append (r : Registry σ) (p : Plugin σ) :
    (r.append p).places.Perm (p.place :: r.places) := by
  cases p with
  | connector c =>
      simp only [places, pluginIds, connectorIds, append, List.map_append, List.append_assoc]
      exact List.perm_middle
  | definition d =>
      simp only [places, pluginIds, definitionIds, append, List.map_append, ← List.append_assoc]
      exact (List.perm_append_singleton _ _).append_right _
  | principal p =>
      simp only [places, principalIds, append, List.map_append, ← List.append_assoc]
      exact List.perm_append_singleton _ _

theorem Built.append (h : r.Built) (hfree : p.place ∉ r.places) : (r.append p).Built := by
  have hadd := add_of_not_mem hfree
  cases p with
  | connector c => exact .connector h hadd
  | definition d => exact .definition h hadd
  | principal p => exact .principal h hadd

end Offer

/-! ## Histories -/

/-- What a registry has after plugins were offered to it: of those that take one place, one. -/
structure Collects (offered : List (Plugin σ)) (r : Registry σ) : Prop where
  built : r.Built
  nodup : r.places.Nodup
  taken : ∀ place, place ∈ r.places ↔ place ∈ offered.map (·.place)
  ordered : r.principals.Sublist (offered.filterMap (·.principal?))

theorem Collects.empty : Collects [] (.empty : Registry σ) where
  built := .empty
  nodup := .nil
  taken _ := .rfl
  ordered := .slnil

theorem Collects.offer {offered : List (Plugin σ)} {r : Registry σ} (h : Collects offered r)
    (p : Plugin σ) : Collects (offered ++ [p]) (r.offer p).2 := by
  by_cases hin : p.place ∈ r.places
  · rw [offer_of_mem hin]
    constructor
    case built => exact h.built
    case nodup => exact h.nodup
    case taken =>
      intro place
      rw [List.map_append, List.mem_append, ← h.taken place]
      refine ⟨.inl, fun hplace => hplace.elim id fun hlast => ?_⟩
      rw [List.mem_singleton.mp hlast]
      exact hin
    case ordered =>
      rw [List.filterMap_append]
      exact h.ordered.trans (List.sublist_append_left _ _)
  · rw [offer_of_not_mem hin]
    have hplaces := r.places_append p
    constructor
    case built => exact h.built.append hin
    case nodup => exact hplaces.nodup_iff.mpr (List.nodup_cons.mpr ⟨hin, h.nodup⟩)
    case taken =>
      intro place
      rw [hplaces.mem_iff, List.mem_cons, h.taken place, List.map_append, List.mem_append, or_comm]
      exact or_congr_right List.mem_singleton.symm
    case ordered =>
      rw [List.filterMap_append]
      cases p with
      | connector c => exact h.ordered.trans (List.sublist_append_left _ _)
      | definition d => exact h.ordered.trans (List.sublist_append_left _ _)
      | principal p => exact h.ordered.append (.refl [p])

/-- The induction is from the last plugin on, since the registry has what came before. -/
theorem offerAll_collects (offered : List (Plugin σ)) :
    Collects offered (offerAll .empty offered) := by
  induction offered using List.reverseRecOn with
  | nil => exact .empty
  | append_singleton before p ih =>
      rw [offerAll, List.foldl_append]
      exact ih.offer p

namespace Collects

variable {offered : List (Plugin σ)} {r : Registry σ}

theorem pluginIds_nodup (h : Collects offered r) : r.pluginIds.Nodup :=
  (List.nodup_append.mp h.nodup).1.of_map _

theorem principalIds_nodup (h : Collects offered r) : r.principalIds.Nodup :=
  (List.nodup_append.mp h.nodup).2.1.of_map _

/-- Whether a plugin is refused depends on what was offered before, and on nothing else. -/
theorem offer_eq (h : Collects offered r) (p : Plugin σ) :
    (p.place ∈ offered.map (·.place) → r.offer p = (.error (.duplicatePlugin p.place.id), r)) ∧
      (p.place ∉ offered.map (·.place) → r.offer p = (.ok (), r.append p)) := by
  rw [← h.taken]
  exact ⟨offer_of_mem, offer_of_not_mem⟩

end Collects

theorem definition?_eq_some_iff {r : Registry σ} (h : r.definitionIds.Nodup) {id : String}
    {d : Definition σ} : r.definition? id = some d ↔ d ∈ r.definitions ∧ d.id = id :=
  find?_eq_some_iff_of_nodup h

end Registry

/-! ## The graph -/

/-- A graph has edges from a plugin to those of its dependencies that are plugins, once each. -/
def Graph.Reaches (g : Graph) (id : String) (dependencies : List String) : Prop :=
  ∃ reached, g.dependenciesOf? id = some reached ∧ reached.Nodup ∧
    ∀ other, other ∈ reached ↔ other ∈ dependencies ∧ other ∈ g.ids

theorem Graph.Shows.reaches {g : Graph} {plugins : List (String × List String)}
    (h : g.Shows plugins) (hnodup : (plugins.map (·.1)).Nodup) {p : String × List String}
    (hp : p ∈ plugins) : g.Reaches p.1 p.2 := by
  have hid : p.1 ∈ g.ids := h.ids.mem_iff.mpr (List.mem_map_of_mem hp)
  obtain ⟨n, hn, hnid⟩ := List.mem_map.mp hid
  have hnode : g.node? p.1 = some n := hnid ▸ Graph.node?_eq_some h.ascending.nodup hn
  obtain ⟨q, hq, hqid, hdeclared⟩ := h.declared n hn
  obtain rfl := List.inj_on_of_nodup_map hnodup hq hp (hqid.trans hnid)
  exact ⟨n.dependencies, by rw [Graph.dependenciesOf?, hnode]; rfl, h.nodup n hn, hdeclared⟩

/-- Plugins without repeated ids have a graph, and it is the same whichever of them come first. -/
theorem Registry.graph_reaches {r : Registry σ} (h : r.pluginIds.Nodup) :
    ∃ g, (∀ plugins, plugins.Perm r.dependencyLists → Graph.ofPlugins plugins = .ok g) ∧
      g.ids.Perm r.pluginIds ∧ ∀ p ∈ r.dependencyLists, g.Reaches p.1 p.2 := by
  rw [← map_fst_dependencyLists] at h ⊢
  obtain ⟨g, hg, hshows⟩ := Graph.ofPlugins_ok h
  refine ⟨g, ?_, hshows.ids, fun p hp => hshows.reaches h hp⟩
  intro plugins hperm
  rw [← Graph.ofPlugins_perm h hperm.symm, hg]

/-- Plugins are offered to a registry in any order and of any kinds, and some may be refused.  One
is refused if and only if its id is taken, that is, if it was offered before, and then nothing
changes.  So no id is that of a connector and of a definition, each plugin is found under its own
id, and principal connectors come in the order in which they were added, none of their ids twice.
The graph is made in whatever order plugins are gone through, and has the edges that they name. -/
theorem Registry.offerAll_ids_apart (offered : List (Plugin σ)) :
    let r := Registry.offerAll .empty offered
    (∀ p : Plugin σ,
      (p.place ∈ offered.map (·.place) → r.offer p = (.error (.duplicatePlugin p.place.id), r)) ∧
      (p.place ∉ offered.map (·.place) → r.offer p = (.ok (), r.append p))) ∧
    (∀ id, ¬ ((r.connector? id).isSome = true ∧ (r.definition? id).isSome = true)) ∧
    (∀ id c, r.connector? id = some c ↔ c ∈ r.connectors ∧ c.id = id) ∧
    (∀ id d, r.definition? id = some d ↔ d ∈ r.definitions ∧ d.id = id) ∧
    r.principalIds.Nodup ∧ r.principals.Sublist (offered.filterMap (·.principal?)) ∧ r.Built ∧
    ∃ g, r.graph = .ok g ∧
      (∀ plugins, plugins.Perm r.dependencyLists → Graph.ofPlugins plugins = .ok g) ∧
      g.ids.Perm (r.connectorIds ++ r.definitionIds) ∧
      (∀ c ∈ r.connectors, g.Reaches c.id (c.dependencies ++ c.failover.toList)) ∧
      ∀ d ∈ r.definitions, g.Reaches d.id d.dependencies := by
  intro r
  have hcollects : Collects offered r := offerAll_collects offered
  have hnodup := hcollects.pluginIds_nodup
  obtain ⟨hconnectors, hdefinitions, hdisjoint⟩ := List.nodup_append.mp hnodup
  obtain ⟨g, hgraph, hids, hreaches⟩ := graph_reaches hnodup
  refine ⟨hcollects.offer_eq, ?_, fun id c => connector?_eq_some_iff hconnectors,
    fun id d => definition?_eq_some_iff hdefinitions, hcollects.principalIds_nodup,
    hcollects.ordered, hcollects.built, g, hgraph _ (.refl _), hgraph, hids, ?_, ?_⟩
  · rintro id ⟨hc, hd⟩
    rw [isSome_connector?] at hc
    rw [isSome_definition?] at hd
    exact hdisjoint id hc id hd rfl
  · intro c hc
    exact hreaches _ (List.mem_append_left _ (List.mem_map_of_mem hc))
  · intro d hd
    exact hreaches _ (List.mem_append_right _ (List.mem_map_of_mem hd))

/-- A connector that is refused for the id of a definition, and a definition for that of a
connector. -/
theorem Registry.offerAll_ids_apart_surname :
    let primary := unset "primary" (some "backup")
    let r := Registry.offerAll .empty
      [.connector primary, .definition surname, .connector (unset "surname" none),
        .connector backup]
    r.connectors = [primary, backup] ∧
    r.offer (.definition { surname with id := "backup" }) =
      (.error (.duplicatePlugin "backup"), r) ∧
    ∃ g, r.graph = .ok g ∧ g.Reaches "primary" ["backup"] ∧ g.Reaches "surname" ["primary"] := by
  intro primary r
  obtain ⟨hoffer, -, -, -, -, -, -, g, hgraph, -, -, hconnectors, hdefinitions⟩ :=
    Registry.offerAll_ids_apart
      [.connector primary, .definition surname, .connector (unset "surname" none),
        .connector backup]
  refine ⟨rfl, ?_, g, hgraph, ?_, ?_⟩
  · exact (hoffer (.definition { surname with id := "backup" })).1
      (.tail _ (.tail _ (.tail _ (.head _))))
  · exact hconnectors primary List.mem_cons_self
  · exact hdefinitions surname List.mem_cons_self

end AttributeRelease
