import AttributeRelease.Graph.Order
import AttributeRelease.Proofs.Distinct
import Mathlib.Data.List.Basic
import Mathlib.Data.List.Nodup
import Mathlib.Data.List.Perm.Subperm

/-!
# Orders put dependencies first

While plugins are placed, those in the queue wait for nothing, and those that were placed have their
dependencies before them.  Every count is the number of dependencies that have not been placed, so
none is counted below zero.  An order of all plugins therefore descends along every edge.
-/

namespace AttributeRelease.Graph

/-! ## Counts -/

/-- How many of a plugin's dependencies have not been placed. -/
def Node.missing (placed : List String) (n : Node) : Nat :=
  n.dependencies.countP fun d => !placed.contains d

theorem Node.missing_eq_zero_iff {placed : List String} {n : Node} :
    n.missing placed = 0 ↔ ∀ d ∈ n.dependencies, d ∈ placed := by
  simp [missing]

theorem Node.missing_nil (n : Node) : n.missing [] = n.dependencies.length := by
  simp [missing]

/-- A plugin that is placed is missed no more, wherever it is a dependency. -/
theorem Node.missing_append {placed : List String} {id : String} (h : id ∉ placed) (n : Node) :
    n.missing (placed ++ [id]) + n.dependencies.count id = n.missing placed := by
  rw [missing, missing]
  induction n.dependencies with
  | nil => rfl
  | cons d rest ih =>
      rw [List.countP_cons, List.countP_cons, List.count_cons]
      by_cases hd : d = id
      · subst hd
        simp [h] at ih ⊢
        omega
      · by_cases hplaced : d ∈ placed <;> simp [hd, hplaced] at ih ⊢ <;> omega

theorem countDown_ok {p : Placement} {id : String} {left : Nat} (h : p.waiting id = left + 1) :
    p.countDown id = .ok { p with
      queue := if left = 0 then p.queue ++ [id] else p.queue
      waiting := fun other => if other = id then left else p.waiting other } := by
  rw [Placement.countDown, h]

/-- Where no plugin is counted down more often than it waits, every one is counted down, and those
whose counts come to zero join the queue. -/
theorem foldlM_countDown {p : Placement} {ids : List String}
    (h : ∀ id, ids.count id ≤ p.waiting id) :
    ∃ released, ids.foldlM Placement.countDown p =
        .ok ⟨p.placed, p.queue ++ released, fun id => p.waiting id - ids.count id⟩ ∧
      released.Nodup ∧ ∀ id, id ∈ released ↔ id ∈ ids ∧ p.waiting id = ids.count id := by
  induction ids generalizing p with
  | nil => exact ⟨[], by simp [pure, Except.pure], .nil, by simp⟩
  | cons id rest ih =>
      have hid := h id
      rw [List.count_cons_self] at hid
      obtain ⟨left, hleft⟩ := Nat.exists_eq_add_of_lt (Nat.lt_of_lt_of_le (Nat.succ_pos _) hid)
      rw [Nat.zero_add] at hleft
      have hrest : ∀ other, rest.count other ≤ if other = id then left else p.waiting other := by
        intro other
        by_cases heq : other = id
        · subst heq
          simp
          omega
        · have := h other
          rw [List.count_cons_of_ne (Ne.symm heq)] at this
          simpa [heq] using this
      obtain ⟨released, hfold, hnodup, hmem⟩ := ih (p := { p with
        queue := if left = 0 then p.queue ++ [id] else p.queue
        waiting := fun other => if other = id then left else p.waiting other }) hrest
      have hwaiting : (fun other => (if other = id then left else p.waiting other) -
          rest.count other) = fun other => p.waiting other - (id :: rest).count other := by
        funext other
        by_cases heq : other = id
        · subst heq
          simp
          omega
        · simp [heq, List.count_cons_of_ne (Ne.symm heq)]
      rw [List.foldlM_cons, countDown_ok hleft]
      by_cases hzero : left = 0
      · -- the plugin waits for no other, so it is not among the rest
        have hnotMem : id ∉ rest := List.count_eq_zero.mp (by omega)
        refine ⟨id :: released, ?_, ?_, ?_⟩
        · refine hfold.trans ?_
          change Except.ok (Placement.mk _ _ fun other =>
            (if other = id then left else p.waiting other) - rest.count other) = _
          rw [hwaiting, if_pos hzero, List.append_assoc]
          rfl
        · refine List.nodup_cons.mpr ⟨fun hin => hnotMem ((hmem id).mp hin).1, hnodup⟩
        · intro other
          by_cases heq : other = id
          · subst heq
            simp [hleft, hzero, List.count_eq_zero.mpr hnotMem]
          · rw [List.mem_cons, hmem other, List.mem_cons, List.count_cons_of_ne (Ne.symm heq)]
            simp [heq]
      · refine ⟨released, ?_, hnodup, ?_⟩
        · refine hfold.trans ?_
          change Except.ok (Placement.mk _ _ fun other =>
            (if other = id then left else p.waiting other) - rest.count other) = _
          rw [hwaiting, if_neg hzero]
        · intro other
          rw [hmem other]
          by_cases heq : other = id
          · subst heq
            rw [List.count_cons_self]
            simp only [if_pos, hleft, Nat.add_right_cancel_iff]
            refine ⟨fun hin => ⟨List.mem_cons_self, hin.2⟩, fun hin => ⟨?_, hin.2⟩⟩
            exact List.count_pos_iff.mp (by omega)
          · rw [List.mem_cons, List.count_cons_of_ne (Ne.symm heq)]
            simp [heq]

theorem count_flatMap_replicate {nodes : List Node} (hids : (nodes.map (·.id)).Nodup)
    (copies : Node → Nat) {n : Node} (hn : n ∈ nodes) :
    (nodes.flatMap fun m => List.replicate (copies m) m.id).count n.id = copies n := by
  induction nodes with
  | nil => cases hn
  | cons m rest ih =>
      obtain ⟨hnew, hrest⟩ : m.id ∉ rest.map (·.id) ∧ (rest.map (·.id)).Nodup :=
        List.nodup_cons.mp hids
      rw [List.flatMap_cons, List.count_append, List.count_replicate]
      rcases List.mem_cons.mp hn with rfl | hmem
      · have hnotMem : n.id ∉ rest.flatMap fun m => List.replicate (copies m) m.id := by
          intro hin
          obtain ⟨m, hm, hcopy⟩ := List.mem_flatMap.mp hin
          rw [(List.mem_replicate.mp hcopy).2] at hnew
          exact hnew (List.mem_map_of_mem hm)
        simp [List.count_eq_zero.mpr hnotMem]
      · have hne : m.id ≠ n.id := by
          intro heq
          rw [heq] at hnew
          exact hnew (List.mem_map_of_mem hmem)
        simp [hne, ih hrest hmem]

variable {g : Graph}

theorem count_dependents (hids : g.ids.Nodup) {n : Node} (hn : n ∈ g.nodes) (id : String) :
    (g.dependents id).count n.id = n.dependencies.count id :=
  count_flatMap_replicate hids _ hn

/-! ## Placing -/

/-- What holds of the plugins that were placed, of those that wait for nothing, and of the
counts. -/
structure Placing (g : Graph) (p : Placement) : Prop where
  nodup : (p.placed ++ p.queue).Nodup
  nodes : ∀ id ∈ p.placed ++ p.queue, id ∈ g.ids
  ready : ∀ n ∈ g.nodes, n.id ∈ p.queue → ∀ d ∈ n.dependencies, d ∈ p.placed
  before : ∀ n ∈ g.nodes, n.id ∈ p.placed → ∀ d ∈ n.dependencies,
    p.placed.idxOf d < p.placed.idxOf n.id
  counted : ∀ n ∈ g.nodes, p.waiting n.id = n.missing p.placed
  released : ∀ n ∈ g.nodes, n.missing p.placed = 0 → n.id ∈ p.placed ++ p.queue

theorem nodup_map_filter (h : g.ids.Nodup) (p : Node → Bool) :
    ((g.nodes.filter p).map (·.id)).Nodup :=
  (List.filter_sublist.map _).nodup h

theorem node?_eq_some (hids : g.ids.Nodup) {n : Node} (hn : n ∈ g.nodes) :
    g.node? n.id = some n :=
  (find?_eq_some_iff_of_nodup hids).mpr ⟨hn, rfl⟩

theorem placing_start (hids : g.ids.Nodup) : g.Placing g.start where
  nodup := nodup_map_filter hids _
  nodes id hid := by
    obtain ⟨n, hn, rfl⟩ := List.mem_map.mp hid
    exact List.mem_map_of_mem (List.mem_filter.mp hn).1
  ready n hn hid d hd := by
    obtain ⟨m, hm, heq⟩ := List.mem_map.mp hid
    obtain ⟨hmem, hempty⟩ := List.mem_filter.mp hm
    rw [List.inj_on_of_nodup_map hids hmem hn heq, List.isEmpty_iff] at hempty
    rw [hempty] at hd
    cases hd
  before _ _ hid := absurd hid List.not_mem_nil
  counted n hn := by
    change ((g.dependenciesOf? n.id).getD []).length = n.missing []
    rw [dependenciesOf?, node?_eq_some hids hn, n.missing_nil]
    rfl
  released n hn hmissing := by
    have hempty : n.dependencies = [] := List.length_eq_zero_iff.mp (n.missing_nil ▸ hmissing)
    exact List.mem_map_of_mem (List.mem_filter.mpr ⟨hn, by rw [hempty]; rfl⟩)

namespace Placing

variable {p : Placement} {id : String} {queue : List String}

theorem dependency_mem (h : g.Placing p) {n : Node} (hn : n ∈ g.nodes)
    (hid : n.id ∈ p.placed) {d : String} (hd : d ∈ n.dependencies) : d ∈ p.placed := by
  have hbefore := h.before n hn hid d hd
  exact List.idxOf_lt_length_iff.mp (Nat.lt_trans hbefore (List.idxOf_lt_length_iff.mpr hid))

theorem notMem_of_queue (h : g.Placing p) (hqueue : p.queue = id :: queue) : id ∉ p.placed := by
  intro hmem
  refine (List.nodup_append.mp h.nodup).2.2 id hmem id ?_ rfl
  rw [hqueue]
  exact List.mem_cons_self

/-- No plugin depends on another one more often than it waits for dependencies. -/
theorem count_le_waiting (h : g.Placing p) (hids : g.ids.Nodup) (hnew : id ∉ p.placed)
    (other : String) : (g.dependents id).count other ≤ p.waiting other := by
  by_cases hmem : other ∈ g.dependents id
  · obtain ⟨n, hn, rfl, _⟩ := mem_dependents.mp hmem
    rw [count_dependents hids hn, h.counted n hn, ← n.missing_append hnew]
    exact Nat.le_add_left _ _
  · rw [List.count_eq_zero.mpr hmem]
    exact Nat.zero_le _

/-- When the first plugin of the queue is placed, those that depend on it are counted down, and the
ones that wait for nothing else join the queue. -/
theorem step (hids : g.ids.Nodup) (h : g.Placing p) (hqueue : p.queue = id :: queue) :
    ∃ next, (g.dependents id).foldlM Placement.countDown
        { p with placed := p.placed ++ [id], queue } = .ok next ∧ g.Placing next := by
  have hnew := h.notMem_of_queue hqueue
  obtain ⟨released, hfold, hnodup, hmem⟩ := foldlM_countDown
    (p := { p with placed := p.placed ++ [id], queue }) (h.count_le_waiting hids hnew)
  have hreleased : ∀ other, other ∈ released ↔
      ∃ n ∈ g.nodes, n.id = other ∧ id ∈ n.dependencies ∧ n.missing (p.placed ++ [id]) = 0 := by
    intro other
    rw [hmem other, mem_dependents]
    constructor
    · rintro ⟨⟨n, hn, rfl, hid⟩, hcount⟩
      have hcounted := h.counted n hn
      rw [hcount, count_dependents hids hn, ← n.missing_append hnew] at hcounted
      exact ⟨n, hn, rfl, hid, by omega⟩
    · rintro ⟨n, hn, rfl, hid, hmissing⟩
      refine ⟨⟨n, hn, rfl, hid⟩, ?_⟩
      change p.waiting n.id = _
      rw [count_dependents hids hn, h.counted n hn, ← n.missing_append hnew, hmissing,
        Nat.zero_add]
  have hold : ∀ other ∈ p.placed ++ [id] ++ queue, other ∈ p.placed ++ p.queue := by
    rw [hqueue]
    simp
  have hold' : ∀ other ∈ p.placed ++ p.queue, other ∈ p.placed ++ [id] ++ queue := by
    rw [hqueue]
    simp
  refine ⟨_, hfold, ?_⟩
  constructor
  case nodup =>
    simp only [← List.append_assoc]
    refine List.nodup_append.mpr ⟨?_, hnodup, ?_⟩
    · have hbefore := h.nodup
      rw [hqueue] at hbefore
      simpa using hbefore
    · rintro a ha b hb rfl
      obtain ⟨n, hn, rfl, hid, _⟩ := (hreleased a).mp hb
      apply hnew
      rcases List.mem_append.mp (hold n.id ha) with hplaced | hwaits
      · exact h.dependency_mem hn hplaced hid
      · exact h.ready n hn hwaits id hid
  case nodes =>
    simp only [← List.append_assoc]
    intro other hother
    rcases List.mem_append.mp hother with hmem | hnext
    · exact h.nodes other (hold other hmem)
    · obtain ⟨n, hn, rfl, _⟩ := (hreleased other).mp hnext
      exact List.mem_map_of_mem hn
  case ready =>
    intro n hn hid d hd
    rcases List.mem_append.mp hid with hwaits | hnext
    · have hready := h.ready n hn (by rw [hqueue]; exact List.mem_cons_of_mem id hwaits) d hd
      exact List.mem_append_left _ hready
    · obtain ⟨m, hm, heq, _, hmissing⟩ := (hreleased n.id).mp hnext
      rw [List.inj_on_of_nodup_map hids hm hn heq] at hmissing
      exact Node.missing_eq_zero_iff.mp hmissing d hd
  case before =>
    intro n hn hid d hd
    rcases List.mem_append.mp hid with hplaced | hlast
    · change (p.placed ++ [id]).idxOf d < (p.placed ++ [id]).idxOf n.id
      rw [List.idxOf_append_of_mem (h.dependency_mem hn hplaced hd),
        List.idxOf_append_of_mem hplaced]
      exact h.before n hn hplaced d hd
    · have heq := List.mem_singleton.mp hlast
      have hd' : d ∈ p.placed := h.ready n hn (by rw [heq, hqueue]; exact List.mem_cons_self) d hd
      change (p.placed ++ [id]).idxOf d < (p.placed ++ [id]).idxOf n.id
      rw [heq, List.idxOf_append_of_mem hd', List.idxOf_append_of_notMem hnew]
      exact Nat.lt_add_right _ (List.idxOf_lt_length_iff.mpr hd')
  case counted =>
    intro n hn
    change p.waiting n.id - (g.dependents id).count n.id = n.missing (p.placed ++ [id])
    rw [count_dependents hids hn, h.counted n hn, ← n.missing_append hnew, Nat.add_sub_cancel]
  case released =>
    intro n hn hmissing
    simp only [← List.append_assoc]
    by_cases hid : id ∈ n.dependencies
    · exact List.mem_append_right _ ((hreleased n.id).mpr ⟨n, hn, rfl, hid, hmissing⟩)
    · have hsame := n.missing_append hnew
      rw [List.count_eq_zero.mpr hid, Nat.add_zero] at hsame
      have hnow := hold' n.id (h.released n hn (hsame ▸ hmissing))
      exact List.mem_append_left _ hnow

/-- Placing goes on until the queue is empty, and no count stops it. -/
theorem place (hids : g.ids.Nodup) {p : Placement} (h : g.Placing p) :
    ∃ last, g.place p = .ok last.placed ∧ last.queue = [] ∧ g.Placing last := by
  induction p using Graph.place.induct g with
  | case1 p hqueue => exact ⟨p, place_of_empty hqueue, hqueue, h⟩
  | case2 p id queue hqueue e hnext =>
      obtain ⟨next, hok, _⟩ := h.step hids hqueue
      rw [hok] at hnext
      cases hnext
  | case3 p id queue hqueue next hnext ih =>
      obtain ⟨next', hok, hplacing⟩ := h.step hids hqueue
      rw [hok] at hnext
      cases hnext
      obtain ⟨last, hlast, hempty, hdone⟩ := ih hplacing
      exact ⟨last, (place_of_next hqueue hok).trans hlast, hempty, hdone⟩

end Placing

theorem length_ids (g : Graph) : g.ids.length = g.size := List.length_map _

/-- What was placed is the order when all plugins were; otherwise a cycle is looked for. -/
theorem exists_order_eq (hids : g.ids.Nodup) :
    ∃ last, last.queue = [] ∧ g.Placing last ∧
      g.order = if last.placed.length = g.size then .ok last.placed else
        match g.detectCycles with
        | .error e => .error e
        | .ok () => .error .unknownCycle := by
  obtain ⟨last, hplace, hempty, hplacing⟩ := (placing_start hids).place hids
  refine ⟨last, hempty, hplacing, ?_⟩
  cases hsearch : g.detectCycles with
  | error e => simp only [order, hplace, hsearch]
  | ok _ => simp only [order, hplace, hsearch]

/-- An order has all plugins, each once, and dependencies stand before what depends on them. -/
theorem order_ok {ids : List String} (hids : g.ids.Nodup) (h : g.order = .ok ids) :
    ids.Perm g.ids ∧ ∀ n ∈ g.nodes, ∀ d ∈ n.dependencies, ids.idxOf d < ids.idxOf n.id := by
  obtain ⟨last, _, hplacing, horder⟩ := exists_order_eq hids
  rw [horder] at h
  split at h
  · next hsize =>
      cases h
      have hsubset : last.placed ⊆ g.ids := fun id hid =>
        hplacing.nodes id (List.mem_append_left last.queue hid)
      have hperm : last.placed.Perm g.ids :=
        (List.subperm_of_subset hplacing.nodup.of_append_left hsubset).perm_of_length_le
          (Nat.le_of_eq ((length_ids g).trans hsize.symm))
      refine ⟨hperm, fun n hn d hd => ?_⟩
      exact hplacing.before n hn (hperm.mem_iff.mpr (List.mem_map_of_mem hn)) d hd
  · split at h <;> cases h

end AttributeRelease.Graph
