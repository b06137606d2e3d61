import AttributeRelease.Proofs.Graph.Cycle
import AttributeRelease.Proofs.Graph.Plugins
import AttributeRelease.Proofs.Resolution.Cycle
import AttributeRelease.Registry.Check

/-!
# Registries with an order

The graph of a registry has an edge for every link between plugins, whether it is a dependency or a
failover, and whether or not a walk ever takes it.  Once the graph has an order, no links lead
around a cycle.
-/

namespace AttributeRelease

variable {σ : Type}

namespace Registry

theorem map_fst_dependencyLists (r : Registry σ) : r.dependencyLists.map (·.1) = r.pluginIds := by
  rw [dependencyLists, List.map_append, List.map_map, List.map_map]
  rfl

theorem links_iff {r : Registry σ} {a b : String} :
    r.Links a b ↔ ∃ n ∈ r.dependencyLists, n.1 = a ∧ b ∈ n.2 := by
  simp only [Links, dependencyLists, List.mem_append, List.mem_map]
  constructor
  · rintro (⟨c, hc, rfl, hb⟩ | ⟨d, hd, rfl, hb⟩)
    · refine ⟨_, .inl ⟨c, hc, rfl⟩, rfl, List.mem_append.mpr ?_⟩
      exact hb.imp id Option.mem_toList.mpr
    · exact ⟨_, .inr ⟨d, hd, rfl⟩, rfl, hb⟩
  · rintro ⟨n, ⟨c, hc, rfl⟩ | ⟨d, hd, rfl⟩, rfl, hb⟩
    · refine .inl ⟨c, hc, rfl, ?_⟩
      exact (List.mem_append.mp hb).imp id Option.mem_toList.mp
    · exact .inr ⟨d, hd, rfl, hb⟩

theorem graph_eq (r : Registry σ) : r.graph = Graph.ofPlugins r.dependencyLists := rfl

/-- Plugins without repeated ids have a graph, whose edges are the links between them. -/
theorem graph_ok {r : Registry σ} (h : r.pluginIds.Nodup) :
    ∃ g, r.graph = .ok g ∧ g.ids.Perm r.pluginIds ∧
      ∀ a b, g.Edge a b ↔ r.Links a b ∧ r.contains b = true := by
  rw [← map_fst_dependencyLists] at h
  obtain ⟨g, hg, hshows⟩ := Graph.ofPlugins_ok h
  have hids : g.ids.Perm r.pluginIds := by
    rw [← map_fst_dependencyLists]
    exact hshows.ids
  refine ⟨g, hg, hids, ?_⟩
  intro a b
  rw [contains_iff_mem_pluginIds, ← hids.mem_iff, links_iff]
  constructor
  · rintro ⟨n, hn, rfl, hb⟩
    obtain ⟨p, hp, hid, hdeclared⟩ := hshows.declared n hn
    obtain ⟨hlisted, hknown⟩ := (hdeclared b).mp hb
    exact ⟨⟨p, hp, hid, hlisted⟩, hknown⟩
  · rintro ⟨⟨p, hp, rfl, hlisted⟩, hknown⟩
    have hmem : p.1 ∈ g.ids := hshows.ids.mem_iff.mpr (List.mem_map_of_mem hp)
    obtain ⟨n, hn, hid⟩ := List.mem_map.mp hmem
    obtain ⟨q, hq, hqid, hdeclared⟩ := hshows.declared n hn
    obtain rfl := List.inj_on_of_nodup_map h hq hp (hqid.trans hid)
    exact ⟨n, hn, hid, (hdeclared b).mpr ⟨hlisted, hknown⟩⟩

/-- Plugins can be numbered such that all links between them lead downwards. -/
def Descends (r : Registry σ) : Prop :=
  ∃ rank : String → Nat, ∀ a b, r.Links a b → r.contains b = true → rank b < rank a

/-- Where there is an order, links lead downwards. -/
theorem descends_of_checkOrder {r : Registry σ} (h : r.pluginIds.Nodup)
    (horder : r.checkOrder = .ok ()) : r.Descends := by
  obtain ⟨g, hg, hids, hedges⟩ := graph_ok h
  have hnodup : g.ids.Nodup := hids.nodup_iff.mpr h
  rw [checkOrder, show r.order = g.order by rw [order, hg]; rfl] at horder
  cases hresult : g.order with
  | ok ids =>
      obtain ⟨_, hbefore⟩ := Graph.order_ok hnodup hresult
      refine ⟨ids.idxOf, fun a b hlink hb => ?_⟩
      obtain ⟨n, hn, rfl, hdep⟩ := (hedges a b).mpr ⟨hlink, hb⟩
      exact hbefore n hn b hdep
  | error e =>
      rw [hresult] at horder
      cases e with
      | duplicate id => exact absurd hresult (Graph.order_ne_duplicate hnodup)
      | circular path => cases horder
      | unknownCycle => cases horder
      | miscounted id => cases horder

/-- A registry that passes its check has links that lead downwards. -/
theorem Built.descends {r : Registry σ} (h : r.Built) {s s' : σ}
    (hcheck : r.check s = (.ok (), s')) : r.Descends := by
  rw [check] at hcheck
  cases horder : r.checkOrder with
  | ok _ => exact descends_of_checkOrder h.nodup horder
  | error e =>
      rw [horder] at hcheck
      cases hcheck

/-- Where all links lead downwards, none lead around. -/
theorem Descends.no_closedPath {r : Registry σ} (h : r.Descends) (path : List String) :
    ¬ r.ClosedPath path := by
  obtain ⟨rank, hrank⟩ := h
  rintro ⟨⟨id, between, rfl⟩, hregistered, hlinked⟩
  have hdown : (id :: between ++ [id]).IsChain fun a b => rank b < rank a :=
    hlinked.imp_of_mem_imp fun a b _ hb hlink => hrank a b hlink (hregistered b hb)
  have hpairwise : (id :: between ++ [id]).Pairwise fun a b => rank b < rank a :=
    have : IsTrans String fun a b => rank b < rank a := ⟨fun _ _ _ h₁ h₂ => Nat.lt_trans h₂ h₁⟩
    List.isChain_iff_pairwise.mp hdown
  rw [List.cons_append] at hpairwise
  have hlast : id ∈ between ++ [id] := List.mem_append_right _ List.mem_cons_self
  exact Nat.lt_irrefl _ (List.rel_of_pairwise_cons hpairwise hlast)

end Registry

end AttributeRelease
