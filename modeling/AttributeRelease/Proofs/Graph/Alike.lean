import AttributeRelease.Graph.Order
import AttributeRelease.Proofs.Graph.Plugins
import Mathlib.Data.List.Forall2

/-!
# Orders depend on dependencies only

Graphs are alike when they have the same plugins with the same edges, the edges of a plugin being
listed in any order.  Such graphs have the same plugins waiting for the same numbers of others, and
the same ones depend on a plugin that is placed.  So they are placed in the same order.
-/

namespace AttributeRelease.Graph

/-- Nodes of one plugin, with the same edges in any order. -/
structure Node.Alike (n n' : Node) : Prop where
  id : n.id = n'.id
  dependencies : n.dependencies.Perm n'.dependencies

/-- The nodes of one graph are like those of another one. -/
def Alike (g g' : Graph) : Prop := List.Forall₂ Node.Alike g.nodes g'.nodes

namespace Alike

variable {g g' : Graph}

theorem size_eq (h : g.Alike g') : g.size = g'.size := List.Forall₂.length_eq h

/-! ## The start -/

theorem queue_eq {nodes nodes' : List Node} (h : List.Forall₂ Node.Alike nodes nodes') :
    (nodes.filter fun n => n.dependencies.isEmpty).map (·.id) =
      (nodes'.filter fun n => n.dependencies.isEmpty).map (·.id) := by
  induction h with
  | nil => rfl
  | cons halike _ ih =>
      rw [List.filter_cons, List.filter_cons, halike.dependencies.isEmpty_eq]
      split
      · rw [List.map_cons, List.map_cons, halike.id, ih]
      · exact ih

theorem waiting_eq {nodes nodes' : List Node} (h : List.Forall₂ Node.Alike nodes nodes')
    (id : String) :
    (((nodes.find? fun n => n.id == id).map (·.dependencies)).getD []).length =
      (((nodes'.find? fun n => n.id == id).map (·.dependencies)).getD []).length := by
  induction h with
  | nil => rfl
  | @cons n n' rest rest' halike _ ih =>
      rw [List.find?_cons, List.find?_cons, halike.id]
      cases n'.id == id with
      | true => exact halike.dependencies.length_eq
      | false => exact ih

theorem start_eq (h : g.Alike g') : g.start = g'.start := by
  have hwaiting : g.start.waiting = g'.start.waiting := funext (waiting_eq h)
  have hqueue : g.start.queue = g'.start.queue := queue_eq h
  calc g.start = ⟨[], g.start.queue, g.start.waiting⟩ := rfl
    _ = ⟨[], g'.start.queue, g'.start.waiting⟩ := by rw [hqueue, hwaiting]
    _ = g'.start := rfl

/-! ## Placing -/

theorem edges_eq {nodes nodes' : List Node} (h : List.Forall₂ Node.Alike nodes nodes')
    (id : String) :
    (nodes.flatMap fun n => List.replicate (n.dependencies.count id) n.id) =
      nodes'.flatMap fun n => List.replicate (n.dependencies.count id) n.id := by
  induction h with
  | nil => rfl
  | cons halike _ ih =>
      rw [List.flatMap_cons, List.flatMap_cons, halike.dependencies.count_eq, halike.id, ih]

/-- The same plugins depend on a plugin, in the same order. -/
theorem dependents_eq (h : g.Alike g') (id : String) : g.dependents id = g'.dependents id :=
  edges_eq h id

/-- From the same placement on, the same plugins are placed. -/
theorem place_eq (h : g.Alike g') (p : Placement) : g.place p = g'.place p := by
  induction p using Graph.place.induct g with
  | case1 p hqueue => rw [place_of_empty hqueue, place_of_empty hqueue]
  | case2 p id queue hqueue e hnext =>
      have hnext' := hnext
      rw [h.dependents_eq] at hnext'
      rw [place_of_error hqueue hnext, place_of_error hqueue hnext']
  | case3 p id queue hqueue next hnext ih =>
      have hnext' := hnext
      rw [h.dependents_eq] at hnext'
      rw [place_of_next hqueue hnext, place_of_next hqueue hnext', ih]

/-- An order of one graph is the order of the other one. -/
theorem order_eq_ok (h : g.Alike g') {ids : List String} (horder : g.order = .ok ids) :
    g'.order = .ok ids := by
  rw [order, h.start_eq, h.place_eq] at horder
  rw [order]
  cases hplaced : g'.place g'.start with
  | error e =>
      rw [hplaced] at horder
      cases horder
  | ok placed =>
      simp only [hplaced, h.size_eq] at horder ⊢
      split at horder
      · next hsize => rw [if_pos hsize, horder]
      · split at horder <;> cases horder

end Alike

/-! ## The same dependencies -/

/-- The same plugins in any order, and what one of them depends on is listed in any order, with any
repeats. -/
structure SameDependencies (plugins others : List (String × List String)) : Prop where
  ids : (plugins.map (·.1)).Perm (others.map (·.1))
  dependencies : ∀ p ∈ plugins, ∀ q ∈ others, p.1 = q.1 → ∀ d, d ∈ p.2 ↔ d ∈ q.2

theorem SameDependencies.symm {plugins others : List (String × List String)}
    (h : SameDependencies plugins others) : SameDependencies others plugins where
  ids := h.ids.symm
  dependencies q hq p hp heq d := (h.dependencies p hp q hq heq.symm d).symm

/-- Nodes with the same ids are alike where each of them is like those that share its id. -/
theorem alike_nodes {nodes nodes' : List Node} (hids : nodes.map (·.id) = nodes'.map (·.id))
    (h : ∀ n ∈ nodes, ∀ n' ∈ nodes', n.id = n'.id → n.dependencies.Perm n'.dependencies) :
    List.Forall₂ Node.Alike nodes nodes' := by
  induction nodes generalizing nodes' with
  | nil =>
      rw [List.map_nil, eq_comm, List.map_eq_nil_iff] at hids
      rw [hids]
      exact .nil
  | cons n rest ih =>
      cases nodes' with
      | nil => cases hids
      | cons n' rest' =>
          obtain ⟨hid, hrest⟩ := List.cons.inj hids
          refine .cons ⟨hid, h n List.mem_cons_self n' List.mem_cons_self hid⟩ (ih hrest ?_)
          exact fun m hm m' hm' => h m (List.mem_cons_of_mem n hm) m' (List.mem_cons_of_mem n' hm')

/-- Graphs that show the same dependencies are alike. -/
theorem Shows.alike {g g' : Graph} {plugins others : List (String × List String)}
    (hg : g.Shows plugins) (hg' : g'.Shows others) (h : SameDependencies plugins others) :
    g.Alike g' := by
  have hids : g.ids = g'.ids :=
    hg.ascending.ids_eq hg'.ascending (hg.ids.trans (h.ids.trans hg'.ids.symm))
  apply alike_nodes hids
  intro n hn n' hn' hid
  obtain ⟨p, hp, hpid, hdeclared⟩ := hg.declared n hn
  obtain ⟨q, hq, hqid, hdeclared'⟩ := hg'.declared n' hn'
  have hsame := h.dependencies p hp q hq (hpid.trans (hid.trans hqid.symm))
  apply (List.perm_ext_iff_of_nodup (hg.nodup n hn) (hg'.nodup n' hn')).mpr
  intro d
  rw [hdeclared, hdeclared', hsame, hids]

/-- What has an order has the same one wherever the dependencies are the same. -/
theorem SameDependencies.order_eq_ok {plugins others : List (String × List String)}
    (h : SameDependencies plugins others) {ids : List String}
    (horder : (ofPlugins plugins).bind order = .ok ids) :
    (ofPlugins others).bind order = .ok ids := by
  cases hmade : ofPlugins plugins with
  | error e =>
      rw [hmade] at horder
      cases horder
  | ok g =>
      have hnodup := nodup_of_ofPlugins hmade
      obtain ⟨g₁, hg₁, hshows⟩ := ofPlugins_ok hnodup
      obtain ⟨g₂, hg₂, hshows'⟩ := ofPlugins_ok (h.ids.nodup_iff.mp hnodup)
      rw [hg₁] at horder
      rw [hg₂]
      exact (hshows.alike hshows' h).order_eq_ok horder

end AttributeRelease.Graph
