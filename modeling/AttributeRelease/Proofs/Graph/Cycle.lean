import AttributeRelease.Proofs.Graph.Order
import Mathlib.Data.List.Chain
import Mathlib.Logic.Relation

/-!
# Cycles of dependency graphs

The plugins on the path of a search follow one another along edges.  So a plugin that is met there
again closes a path, and that is the cycle that is named.  A plugin is settled when all that it
depends on is settled; from there edges do not lead on for ever.
-/

namespace AttributeRelease.Graph

/-- A plugin has an edge to each plugin that it depends on. -/
def Edge (g : Graph) (a b : String) : Prop := ∃ n ∈ g.nodes, n.id = a ∧ b ∈ n.dependencies

/-- A path along edges that ends where it starts. -/
structure ClosedPath (g : Graph) (path : List String) : Prop where
  returns : ∃ id between, path = id :: between ++ [id]
  linked : path.IsChain g.Edge

/-- No edges lead around. -/
def Acyclic (g : Graph) : Prop := ∀ id, ¬ Relation.TransGen g.Edge id id

/-- From a plugin edges do not lead on for ever. -/
abbrev Ends (g : Graph) (id : String) : Prop := Acc (fun b a => g.Edge a b) id

variable {g : Graph}

theorem edge_of_node? {id d : String} {n : Node} (h : g.node? id = some n)
    (hd : d ∈ n.dependencies) : g.Edge id d :=
  ⟨n, List.mem_of_find?_eq_some h, by simpa using List.find?_some h, hd⟩

theorem not_edge_of_node? {id d : String} (h : g.node? id = none) : ¬ g.Edge id d := by
  rintro ⟨n, hn, heq, _⟩
  have hne := List.find?_eq_none.mp h n hn
  simp [heq] at hne

theorem mem_of_edge {id d : String} {n : Node} (hids : g.ids.Nodup) (h : g.node? id = some n)
    (hedge : g.Edge id d) : d ∈ n.dependencies := by
  obtain ⟨m, hm, rfl, hd⟩ := hedge
  rw [node?_eq_some hids hm] at h
  cases h
  exact hd

theorem ClosedPath.not_acyclic {path : List String} (h : g.ClosedPath path) : ¬ g.Acyclic := by
  obtain ⟨⟨id, between, rfl⟩, hlinked⟩ := h
  have hpairwise : (id :: between ++ [id]).Pairwise (Relation.TransGen g.Edge) :=
    List.isChain_iff_pairwise.mp (hlinked.imp fun _ _ => .single)
  intro hacyclic
  rw [List.cons_append] at hpairwise
  exact hacyclic id (List.rel_of_pairwise_cons hpairwise (by simp))

/-- Where edges do not lead on for ever, they do not lead around. -/
theorem Ends.not_transGen {id : String} (h : g.Ends id) : ¬ Relation.TransGen g.Edge id id := by
  induction h with
  | intro id _ ih =>
      intro hcycle
      obtain ⟨next, hedge, hback⟩ := Relation.TransGen.head'_iff.mp hcycle
      exact ih next hedge (Relation.TransGen.tail' hback hedge)

/-! ## Searches -/

/-- What a search that comes back without a cycle has done. -/
structure Settles (g : Graph) (settled ids settled' : List String) : Prop where
  grows : settled ⊆ settled'
  visited : ids ⊆ settled'
  ends : ∀ id ∈ settled', g.Ends id

/-- A search that fails anywhere fails for a plugin that it visits. -/
theorem exists_of_foldlM_error {α : Type} {step : List String → α → Except Error (List String)}
    {as : List α} {settled : List String} {e : Error} (h : as.foldlM step settled = .error e) :
    ∃ a ∈ as, ∃ settled', step settled' a = .error e := by
  induction as generalizing settled with
  | nil => cases h
  | cons a rest ih =>
      rw [List.foldlM_cons] at h
      cases hfirst : step settled a with
      | error e' =>
          rw [hfirst] at h
          cases h
          exact ⟨a, List.mem_cons_self, settled, hfirst⟩
      | ok next =>
          rw [hfirst] at h
          obtain ⟨b, hb, settled', hstep⟩ := ih h
          exact ⟨b, List.mem_cons_of_mem a hb, settled', hstep⟩

/-- Searches one after the other settle what each of them does. -/
theorem settles_of_foldlM {step : List String → String → Except Error (List String)}
    (hstep : ∀ {settled settled' : List String} {id : String}, (∀ id ∈ settled, g.Ends id) →
      step settled id = .ok settled' → g.Settles settled [id] settled')
    {ids settled settled' : List String} (hends : ∀ id ∈ settled, g.Ends id)
    (h : ids.foldlM step settled = .ok settled') : g.Settles settled ids settled' := by
  induction ids generalizing settled with
  | nil =>
      cases h
      exact ⟨List.Subset.refl _, List.nil_subset _, hends⟩
  | cons id rest ih =>
      rw [List.foldlM_cons] at h
      cases hfirst : step settled id with
      | error e =>
          rw [hfirst] at h
          cases h
      | ok next =>
          rw [hfirst] at h
          have hid := hstep hends hfirst
          have hrest := ih hid.ends h
          refine ⟨List.Subset.trans hid.grows hrest.grows, ?_, hrest.ends⟩
          exact List.cons_subset.mpr ⟨hrest.grows (hid.visited List.mem_cons_self), hrest.visited⟩

/-- The path of a search leads along edges to the plugin that is visited. -/
theorem visit_error {settled path : List String} {id : String} {e : Error}
    (hpath : (path ++ [id]).IsChain g.Edge) (h : g.visit settled path id = .error e) :
    ∃ cycle, e = .circular cycle ∧ g.ClosedPath cycle := by
  fun_induction visit g settled path id with
  | case1 settled path id hmem =>
      cases h
      obtain ⟨between, hcycle, before, rfl⟩ := cycleFrom_of_mem hmem
      refine ⟨_, rfl, ⟨id, between, hcycle⟩, ?_⟩
      rw [hcycle]
      exact hpath.suffix ⟨before, (List.append_assoc _ _ _).symm⟩
  | case2 => cases h
  | case3 => cases h
  | case4 settled path id _ _ n hnode e' hfold ih =>
      cases h
      obtain ⟨d, hd, settled', hstep⟩ := exists_of_foldlM_error hfold
      refine ih settled' d ?_ hstep
      refine hpath.append (.singleton d) ?_
      intro last hlast next hnext
      rw [List.getLast?_append_of_ne_nil _ (List.cons_ne_nil id [])] at hlast
      cases hlast
      cases hnext
      exact edge_of_node? hnode hd
  | case5 => cases h

/-- A search without a cycle settles the plugin that is visited. -/
theorem visit_ok (hids : g.ids.Nodup) {settled settled' path : List String} {id : String}
    (hends : ∀ id ∈ settled, g.Ends id) (h : g.visit settled path id = .ok settled') :
    g.Settles settled [id] settled' := by
  fun_induction visit g settled path id generalizing settled' with
  | case1 => cases h
  | case2 settled path id _ hmem =>
      cases h
      exact ⟨List.Subset.refl _, by simpa using hmem, hends⟩
  | case3 settled path id _ _ hnode =>
      cases h
      refine ⟨List.subset_cons_self _ _, by simp, ?_⟩
      intro other hother
      rcases List.mem_cons.mp hother with rfl | hmem
      · exact ⟨_, fun d hedge => absurd hedge (not_edge_of_node? hnode)⟩
      · exact hends other hmem
  | case4 => cases h
  | case5 settled path id _ _ n hnode settled'' hfold ih =>
      cases h
      have hsettles := settles_of_foldlM (fun hends hstep => ih _ _ hends hstep) hends hfold
      refine ⟨List.subset_cons_of_subset id hsettles.grows, by simp, ?_⟩
      intro other hother
      rcases List.mem_cons.mp hother with rfl | hmem
      · refine ⟨_, fun d hedge => hsettles.ends d (hsettles.visited ?_)⟩
        exact mem_of_edge hids hnode hedge
      · exact hsettles.ends other hmem

/-- A cycle that is named is a closed path. -/
theorem detectCycles_error {e : Error} (h : g.detectCycles = .error e) :
    ∃ cycle, e = .circular cycle ∧ g.ClosedPath cycle := by
  rw [detectCycles] at h
  split at h
  · next hsettle =>
      cases h
      obtain ⟨id, _, settled, hvisit⟩ := exists_of_foldlM_error hsettle
      exact visit_error (.singleton id) hvisit
  · cases h

/-- Where no cycle is named, edges do not lead on for ever. -/
theorem ends_of_detectCycles (hids : g.ids.Nodup) (h : g.detectCycles = .ok ()) (id : String) :
    g.Ends id := by
  rw [detectCycles] at h
  split at h
  · cases h
  · next settled hsettle =>
      have hsettles := settles_of_foldlM (visit_ok hids) (by simp) hsettle
      by_cases hid : id ∈ g.ids
      · exact hsettles.ends id (hsettles.visited hid)
      · refine ⟨_, fun d hedge => absurd ?_ hid⟩
        obtain ⟨n, hn, rfl, _⟩ := hedge
        exact List.mem_map_of_mem hn

theorem detectCycles_eq_ok_iff (hids : g.ids.Nodup) : g.detectCycles = .ok () ↔ g.Acyclic := by
  constructor
  · intro h id
    exact (ends_of_detectCycles hids h id).not_transGen
  · intro h
    cases hsearch : g.detectCycles with
    | ok _ => rfl
    | error e =>
        obtain ⟨cycle, _, hclosed⟩ := detectCycles_error hsearch
        exact absurd h hclosed.not_acyclic

/-! ## Orders -/

/-- Edges that lead downwards in an order do not lead around. -/
theorem acyclic_of_order {ids : List String} (hids : g.ids.Nodup) (h : g.order = .ok ids) :
    g.Acyclic := by
  have hdown : ∀ a b, Relation.TransGen g.Edge a b → ids.idxOf b < ids.idxOf a := by
    intro a b hpath
    induction hpath with
    | single hedge =>
        obtain ⟨n, hn, rfl, hd⟩ := hedge
        exact (order_ok hids h).2 n hn _ hd
    | tail _ hedge ih =>
        obtain ⟨n, hn, rfl, hd⟩ := hedge
        exact Nat.lt_trans ((order_ok hids h).2 n hn _ hd) ih
  intro id hcycle
  exact Nat.lt_irrefl _ (hdown id id hcycle)

/-- When the queue is empty, a plugin from which edges do not lead on for ever was placed. -/
theorem Placing.mem_placed {p : Placement} (h : g.Placing p) (hempty : p.queue = [])
    (hknown : ∀ n ∈ g.nodes, ∀ d ∈ n.dependencies, d ∈ g.ids) {id : String} (hends : g.Ends id)
    (hid : id ∈ g.ids) : id ∈ p.placed := by
  induction hends with
  | intro id _ ih =>
      obtain ⟨n, hn, rfl⟩ := List.mem_map.mp hid
      have hmissing : n.missing p.placed = 0 :=
        Node.missing_eq_zero_iff.mpr fun d hd => ih d ⟨n, hn, rfl, hd⟩ (hknown n hn d hd)
      have hreleased := h.released n hn hmissing
      rwa [hempty, List.append_nil] at hreleased

/-- A graph without cycles has an order, and the order of any other graph is refused with the cycle
that the search names. -/
theorem order_of_detectCycles (hids : g.ids.Nodup)
    (hknown : ∀ n ∈ g.nodes, ∀ d ∈ n.dependencies, d ∈ g.ids) :
    (g.detectCycles = .ok () → ∃ ids, g.order = .ok ids) ∧
      ∀ e, g.detectCycles = .error e → g.order = .error e := by
  obtain ⟨last, hempty, hplacing, horder⟩ := exists_order_eq hids
  constructor
  · intro hsearch
    have hall : g.ids ⊆ last.placed := fun id hid =>
      hplacing.mem_placed hempty hknown (ends_of_detectCycles hids hsearch id) hid
    have hplaced : last.placed ⊆ g.ids := fun id hid =>
      hplacing.nodes id (List.mem_append_left last.queue hid)
    have hsize : last.placed.length = g.size := by
      rw [← length_ids]
      exact Nat.le_antisymm
        (List.subperm_of_subset hplacing.nodup.of_append_left hplaced).length_le
        (List.subperm_of_subset hids hall).length_le
    exact ⟨last.placed, by rw [horder, if_pos hsize]⟩
  · intro e hsearch
    obtain ⟨cycle, _, hclosed⟩ := detectCycles_error hsearch
    have hsize : last.placed.length ≠ g.size := by
      intro hsize
      rw [if_pos hsize] at horder
      exact hclosed.not_acyclic (acyclic_of_order hids horder)
    rw [horder, if_neg hsize, hsearch]

/-- No order is refused on the ground of an id. -/
theorem order_ne_duplicate (hids : g.ids.Nodup) {id : String} :
    g.order ≠ .error (.duplicate id) := by
  obtain ⟨last, _, _, horder⟩ := exists_order_eq hids
  rw [horder]
  intro h
  split at h
  · cases h
  · split at h
    · next e hsearch =>
        obtain ⟨cycle, rfl, _⟩ := detectCycles_error hsearch
        cases h
    · cases h

end AttributeRelease.Graph
