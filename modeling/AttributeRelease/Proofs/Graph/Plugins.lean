import AttributeRelease.Graph.Basic
import Mathlib.Data.List.Nodup
import Mathlib.Data.List.Perm.Basic

/-!
# Graphs of plugins

Plugins that are added one after the other make a graph if and only if no two of them have one id.
In whatever order they come, the graph has them in ascending order of their ids.  Its edges lead to
the declared dependencies that are plugins, too.
-/

namespace AttributeRelease.Graph

variable {g g' : Graph} {plugins : List (String × List String)}

/-! ## Adding -/

theorem add_eq_ok {id : String} {dependencies : List String}
    (h : g.add id dependencies = .ok g') :
    id ∉ g.ids ∧ g' = ⟨insertNode ⟨id, keepFirst dependencies, []⟩ g.nodes⟩ := by
  rw [add] at h
  split at h
  · cases h
  · next hnew =>
      cases h
      exact ⟨fun hmem => hnew (contains_iff_mem_ids.mpr hmem), rfl⟩

/-- One id more comes in. -/
theorem ids_of_add {id : String} {dependencies : List String}
    (h : g.add id dependencies = .ok g') : g'.ids.Perm (id :: g.ids) := by
  obtain ⟨-, rfl⟩ := add_eq_ok h
  exact (insertNode_perm _ _).map _

theorem add_ok {id : String} (h : id ∉ g.ids) (dependencies : List String) :
    ∃ g', g.add id dependencies = .ok g' ∧
      g'.nodes.Perm (⟨id, keepFirst dependencies, []⟩ :: g.nodes) := by
  rw [add, if_neg (fun hmem => h (contains_iff_mem_ids.mp hmem))]
  exact ⟨_, rfl, insertNode_perm _ _⟩

/-- Plugins without repeated ids make a graph. -/
theorem addAll_ok {entries : List (String × List String)}
    (h : (g.ids ++ entries.map (·.1)).Nodup) :
    ∃ g', entries.foldlM (fun (g : Graph) (n : String × List String) => g.add n.1 n.2) g = .ok g' ∧
      g'.nodes.Perm (entries.map (fun n => ⟨n.1, keepFirst n.2, []⟩) ++ g.nodes) := by
  induction entries generalizing g with
  | nil => exact ⟨g, rfl, .refl _⟩
  | cons n rest ih =>
      obtain ⟨id, dependencies⟩ := n
      have hnew : id ∉ g.ids := fun hmem =>
        (List.nodup_append.mp h).2.2 id hmem id List.mem_cons_self rfl
      obtain ⟨mid, hmid, hnodes⟩ := add_ok hnew dependencies
      have hperm : (mid.ids ++ rest.map (·.1)).Perm (g.ids ++ (id :: rest.map (·.1))) :=
        ((ids_of_add hmid).append_right _).trans List.perm_middle.symm
      obtain ⟨g', hg', hnodes'⟩ := ih (hperm.nodup_iff.mpr h)
      refine ⟨g', ?_, ?_⟩
      · rw [List.foldlM_cons, hmid]
        exact hg'
      · exact hnodes'.trans ((hnodes.append_left _).trans List.perm_middle)

/-! ## Ascending ids -/

/-- The nodes of a graph are in ascending order of their ids. -/
def Ascending (g : Graph) : Prop := g.nodes.Pairwise fun m n => m.id < n.id

theorem ascending_insertNode {n : Node} {nodes : List Node}
    (h : nodes.Pairwise fun m n => m.id < n.id) (hnew : ∀ m ∈ nodes, m.id ≠ n.id) :
    (insertNode n nodes).Pairwise fun m n => m.id < n.id := by
  induction nodes with
  | nil => exact List.pairwise_singleton _ n
  | cons m rest ih =>
      obtain ⟨hm, hrest⟩ := List.pairwise_cons.mp h
      rw [insertNode]
      split
      · next hlt =>
          refine List.pairwise_cons.mpr ⟨fun k hk => ?_, h⟩
          rcases List.mem_cons.mp hk with rfl | hmem
          · exact hlt
          · exact String.lt_trans hlt (hm k hmem)
      · next hge =>
          have hlt : m.id < n.id :=
            Std.lt_of_le_of_ne (Std.not_lt.mp hge) (hnew m List.mem_cons_self)
          have hother : ∀ k ∈ rest, k.id ≠ n.id := fun k hk => hnew k (List.mem_cons_of_mem m hk)
          refine List.pairwise_cons.mpr ⟨fun k hk => ?_, ih hrest hother⟩
          rcases mem_insertNode.mp hk with rfl | hmem
          · exact hlt
          · exact hm k hmem

namespace Ascending

theorem add (h : g.Ascending) {id : String} {dependencies : List String}
    (hadd : g.add id dependencies = .ok g') : g'.Ascending := by
  obtain ⟨hnew, rfl⟩ := add_eq_ok hadd
  apply ascending_insertNode h
  rintro m hm rfl
  exact hnew (List.mem_map_of_mem hm)

theorem link (h : g.Ascending) : g.link.Ascending := List.pairwise_map.mpr h

theorem ids (h : g.Ascending) : g.ids.Pairwise (· < ·) := List.pairwise_map.mpr h

theorem nodup (h : g.Ascending) : g.ids.Nodup := by
  apply h.ids.imp
  rintro a b hlt rfl
  exact String.lt_irrefl a hlt

/-- Plugins that have been added stand in ascending order, and no two of them have one id. -/
theorem addAll (h : g.Ascending)
    (hadded : plugins.foldlM (fun (g : Graph) (n : String × List String) => g.add n.1 n.2) g =
      .ok g') : g'.Ascending ∧ (g.ids ++ plugins.map (·.1)).Nodup := by
  induction plugins generalizing g with
  | nil =>
      cases hadded
      rw [List.map_nil, List.append_nil]
      exact ⟨h, h.nodup⟩
  | cons n rest ih =>
      rw [List.foldlM_cons] at hadded
      cases hfirst : g.add n.1 n.2 with
      | error e =>
          rw [hfirst] at hadded
          cases hadded
      | ok mid =>
          rw [hfirst] at hadded
          obtain ⟨hascending, hnodup⟩ := ih (h.add hfirst) hadded
          have hids := (ids_of_add hfirst).append_right (rest.map (·.1))
          exact ⟨hascending, (hids.trans List.perm_middle.symm).nodup_iff.mp hnodup⟩

/-- Ids are in ascending order in one way only. -/
theorem ids_eq (h : g.Ascending) (h' : g'.Ascending) (hperm : g.ids.Perm g'.ids) :
    g.ids = g'.ids := by
  apply hperm.eq_of_pairwise ?_ h.ids h'.ids
  intro a b _ _ hlt hgt
  exact absurd hgt (String.lt_asymm hlt)

/-- So are nodes. -/
theorem eq (h : g.Ascending) (h' : g'.Ascending) (hperm : g.nodes.Perm g'.nodes) : g = g' := by
  have hnodes : g.nodes = g'.nodes := by
    apply hperm.eq_of_pairwise ?_ h h'
    intro m n _ _ hlt hgt
    exact absurd hgt (String.lt_asymm hlt)
  cases g
  cases g'
  cases hnodes
  rfl

end Ascending

/-! ## The graph of plugins -/

/-- The graph that plugins make, each with the dependencies that it declares. -/
def ofPlugins (plugins : List (String × List String)) : Except Error Graph :=
  (plugins.foldlM (fun (g : Graph) (n : String × List String) => g.add n.1 n.2) empty).map link

/-- No two plugins of a graph have one id. -/
theorem nodup_of_ofPlugins (h : ofPlugins plugins = .ok g) : (plugins.map (·.1)).Nodup := by
  rw [ofPlugins] at h
  cases hadded : plugins.foldlM (fun (g : Graph) (n : String × List String) => g.add n.1 n.2)
      empty with
  | error e =>
      rw [hadded] at h
      cases h
  | ok g => exact (Ascending.addAll .nil hadded).2

/-- A graph shows which plugins there are, and which of them each declares as dependencies. -/
structure Shows (g : Graph) (plugins : List (String × List String)) : Prop where
  ascending : g.Ascending
  ids : g.ids.Perm (plugins.map (·.1))
  nodup : ∀ n ∈ g.nodes, n.dependencies.Nodup
  declared : ∀ n ∈ g.nodes, ∃ p ∈ plugins, p.1 = n.id ∧
    ∀ d, d ∈ n.dependencies ↔ d ∈ p.2 ∧ d ∈ g.ids

theorem ofPlugins_ok (h : (plugins.map (·.1)).Nodup) :
    ∃ g, ofPlugins plugins = .ok g ∧ g.Shows plugins := by
  obtain ⟨g, hadded, hnodes⟩ := addAll_ok (g := empty) h
  have hnodes' : g.nodes.Perm (plugins.map fun n => ⟨n.1, keepFirst n.2, []⟩) :=
    hnodes.trans (.of_eq (List.append_nil _))
  have hascending : g.Ascending := (Ascending.addAll .nil hadded).1
  refine ⟨g.link, by rw [ofPlugins, hadded]; rfl, ?_⟩
  constructor
  case ascending => exact hascending.link
  case ids =>
    rw [ids_link]
    have hids := hnodes'.map (·.id)
    rwa [List.map_map] at hids
  case nodup =>
    intro linked hlinked
    obtain ⟨n, hn, rfl⟩ := List.mem_map.mp hlinked
    obtain ⟨p, _, rfl⟩ := List.mem_map.mp (hnodes'.mem_iff.mp hn)
    exact (nodup_keepFirst p.2).filter _
  case declared =>
    intro linked hlinked
    obtain ⟨n, hn, rfl⟩ := List.mem_map.mp hlinked
    obtain ⟨p, hp, rfl⟩ := List.mem_map.mp (hnodes'.mem_iff.mp hn)
    refine ⟨p, hp, rfl, fun d => ?_⟩
    rw [List.mem_filter, mem_keepFirst, contains_iff_mem_ids, ids_link]

/-- There is a graph if and only if no two plugins have one id. -/
theorem exists_ofPlugins_iff :
    (∃ g, ofPlugins plugins = .ok g) ↔ (plugins.map (·.1)).Nodup := by
  constructor
  · rintro ⟨g, h⟩
    exact nodup_of_ofPlugins h
  · intro h
    obtain ⟨g, hmade, _⟩ := ofPlugins_ok h
    exact ⟨g, hmade⟩

/-- The order in which plugins are added makes no difference to their graph. -/
theorem ofPlugins_perm {others : List (String × List String)} (h : (plugins.map (·.1)).Nodup)
    (hperm : plugins.Perm others) : ofPlugins plugins = ofPlugins others := by
  have h' : (others.map (·.1)).Nodup := (hperm.map _).nodup_iff.mp h
  obtain ⟨g, hadded, hnodes⟩ := addAll_ok (g := empty) h
  obtain ⟨g', hadded', hnodes'⟩ := addAll_ok (g := empty) h'
  have hsame : g = g' := by
    refine Ascending.eq (Ascending.addAll .nil hadded).1 (Ascending.addAll .nil hadded').1 ?_
    exact hnodes.trans (((hperm.map _).append_right _).trans hnodes'.symm)
  rw [ofPlugins, ofPlugins, hadded, hadded', hsame]

end AttributeRelease.Graph
