import AttributeRelease.Graph.Basic

/-!
# Orders and cycles of dependency graphs

The order takes plugins whose dependencies have all been placed, first come first served. When
plugins are left over, a depth first search names a cycle.
-/

namespace AttributeRelease.Graph

/-- Fewer members of a list pass a test than another one that also holds for one of them that
fails the first. -/
theorem countP_lt_countP {α : Type} {p q : α → Bool} {xs : List α} {a : α} (ha : a ∈ xs)
    (hp : p a = false) (hq : q a = true) (h : ∀ x ∈ xs, p x = true → q x = true) :
    xs.countP p < xs.countP q := by
  obtain ⟨before, rest, rfl⟩ := List.append_of_mem ha
  have hbefore : before.countP p ≤ before.countP q :=
    List.countP_mono_left fun x hx => h x (by simp [hx])
  have hrest : rest.countP p ≤ rest.countP q :=
    List.countP_mono_left fun x hx => h x (by simp [hx])
  simp only [List.countP_append, List.countP_cons, hp, hq]
  simp
  omega

/-! ## Cycles -/

/-- A node is one of the plugins. -/
theorem mem_ids_of_node? {g : Graph} {id : String} {n : Node} (h : g.node? id = some n) :
    id ∈ g.ids := by
  have hid : n.id = id := by simpa using List.find?_some h
  rw [← hid]
  exact List.mem_map_of_mem (List.mem_of_find?_eq_some h)

/-- Searches from a plugin for a cycle. `path` leads to it, and no cycle is reachable from the
plugins in `settled`; the answer is a cycle, or the plugins that are then settled. The search ends
because every plugin that is visited for another one is off the path until then. -/
@[semireducible]
def visit (g : Graph) (settled path : List String) (id : String) : Except Error (List String) :=
  if id ∈ path then .error (.circular (cycleFrom path id))
  else if id ∈ settled then .ok settled
  else
    match _hnode : g.node? id with
    | none => .ok (id :: settled)
    | some n =>
      match n.dependencies.foldlM (fun settled d => g.visit settled (path ++ [id]) d) settled with
      | .error e => .error e
      | .ok settled => .ok (id :: settled)
termination_by g.ids.countP fun other => !path.contains other
decreasing_by
  next _ hpath _ =>
    exact countP_lt_countP (mem_ids_of_node? _hnode) (by simp) (by simpa using hpath)
      (by intro other _ h; simp at h ⊢; exact h.1)

/-- The search from every plugin in turn. -/
def settle (g : Graph) : Except Error (List String) :=
  g.ids.foldlM (fun settled id => g.visit settled [] id) []

/-- Fails with the first cycle that the search meets. -/
def detectCycles (g : Graph) : Except Error Unit :=
  match g.settle with
  | .error e => .error e
  | .ok _ => .ok ()

/-! ## Order -/

/-- Plugins on their way into an order. -/
structure Placement where
  placed : List String
  /-- Those that wait for nothing any more, first come first served. -/
  queue : List String
  /-- How many dependencies a plugin waits for. -/
  waiting : String → Nat

namespace Placement

/-- A dependency of a plugin was placed, so that it waits for one less. When it waits for no other,
it joins the queue. -/
def countDown (p : Placement) (id : String) : Except Error Placement :=
  match p.waiting id with
  | 0 => .error (.miscounted id)
  | left + 1 =>
    .ok { p with
      queue := if left = 0 then p.queue ++ [id] else p.queue
      waiting := fun other => if other = id then left else p.waiting other }

/-- How many of the plugins are in the queue or wait for others. -/
def remaining (p : Placement) (ids : List String) : Nat :=
  p.queue.length + ids.countP fun id => p.waiting id != 0

/-- A plugin that joins the queue waits for others no more. -/
theorem remaining_countDown {p next : Placement} {ids : List String} {id : String} (hid : id ∈ ids)
    (h : p.countDown id = .ok next) : next.remaining ids ≤ p.remaining ids := by
  rw [countDown] at h
  split at h
  · cases h
  · next left hwaiting =>
    cases h
    by_cases hleft : left = 0
    · have hlt : ids.countP (fun other => (if other = id then left else p.waiting other) != 0) <
          ids.countP fun other => p.waiting other != 0 :=
        countP_lt_countP hid (by simp [hleft]) (by simp [hwaiting])
          (by intro other _; by_cases heq : other = id <;> simp [heq, hleft])
      simp only [remaining, hleft, if_pos, List.length_append, List.length_singleton] at hlt ⊢
      omega
    · have hle : ids.countP (fun other => (if other = id then left else p.waiting other) != 0) ≤
          ids.countP fun other => p.waiting other != 0 :=
        List.countP_mono_left
          (by intro other _; by_cases heq : other = id <;> simp [heq, hwaiting])
      simp only [remaining, hleft, if_false]
      omega

theorem remaining_foldlM {p next : Placement} {ids dependents : List String}
    (hsubset : ∀ id ∈ dependents, id ∈ ids) (h : dependents.foldlM countDown p = .ok next) :
    next.remaining ids ≤ p.remaining ids := by
  induction dependents generalizing p with
  | nil =>
    cases h
    exact Nat.le_refl _
  | cons id rest ih =>
    rw [List.foldlM_cons] at h
    cases hfirst : p.countDown id with
    | error e =>
      rw [hfirst] at h
      cases h
    | ok mid =>
      rw [hfirst] at h
      exact Nat.le_trans (ih (fun other hother => hsubset other (List.mem_cons_of_mem id hother)) h)
        (remaining_countDown (hsubset id List.mem_cons_self) hfirst)

end Placement

/-- The plugins that depend on a plugin, once for each edge. -/
def dependents (g : Graph) (id : String) : List String :=
  g.nodes.flatMap fun n => List.replicate (n.dependencies.count id) n.id

theorem mem_dependents {g : Graph} {id other : String} :
    other ∈ g.dependents id ↔ ∃ n ∈ g.nodes, n.id = other ∧ id ∈ n.dependencies := by
  simp only [dependents, List.mem_flatMap, List.mem_replicate, ne_eq, List.count_eq_zero,
    Decidable.not_not]
  exact ⟨fun ⟨n, hn, hid, heq⟩ => ⟨n, hn, heq.symm, hid⟩,
    fun ⟨n, hn, heq, hid⟩ => ⟨n, hn, hid, heq.symm⟩⟩

/-- Plugins before any is placed. -/
def start (g : Graph) : Placement where
  placed := []
  queue := (g.nodes.filter fun n => n.dependencies.isEmpty).map (·.id)
  waiting id := ((g.dependenciesOf? id).getD []).length

/-- Places the plugins of the queue, and those that thereby wait for nothing any more. -/
@[semireducible]
def place (g : Graph) (p : Placement) : Except Error (List String) :=
  match _hqueue : p.queue with
  | [] => .ok p.placed
  | id :: queue =>
    match _hnext : (g.dependents id).foldlM Placement.countDown
        { p with placed := p.placed ++ [id], queue } with
    | .error e => .error e
    | .ok next => g.place next
termination_by p.remaining g.ids
decreasing_by
  have hsubset : ∀ other ∈ g.dependents id, other ∈ g.ids := by
    intro other hother
    obtain ⟨n, hn, rfl, _⟩ := mem_dependents.mp hother
    exact List.mem_map_of_mem hn
  have hle := Placement.remaining_foldlM hsubset _hnext
  simp only [Placement.remaining, _hqueue, List.length_cons] at hle ⊢
  omega

/-- An empty queue ends it. -/
theorem place_of_empty {g : Graph} {p : Placement} (h : p.queue = []) :
    g.place p = .ok p.placed := by
  rw [place]
  split
  · rfl
  · simp_all

/-- The first plugin of the queue is placed, and what depends on it is counted down. -/
theorem place_of_next {g : Graph} {p next : Placement} {id : String} {queue : List String}
    (h : p.queue = id :: queue)
    (hnext : (g.dependents id).foldlM Placement.countDown
      { p with placed := p.placed ++ [id], queue } = .ok next) : g.place p = g.place next := by
  rw [place.eq_def]
  split
  · simp_all
  · next heq =>
    rw [h] at heq
    cases heq
    split <;> simp_all

/-- A count that goes wrong stops it. -/
theorem place_of_error {g : Graph} {p : Placement} {id : String} {queue : List String} {e : Error}
    (h : p.queue = id :: queue)
    (hnext : (g.dependents id).foldlM Placement.countDown
      { p with placed := p.placed ++ [id], queue } = .error e) : g.place p = .error e := by
  rw [place.eq_def]
  split
  · simp_all
  · next heq =>
    rw [h] at heq
    cases heq
    split <;> simp_all

/-- All plugins, dependencies first. -/
def order (g : Graph) : Except Error (List String) :=
  match g.place g.start with
  | .error e => .error e
  | .ok placed =>
    if placed.length = g.size then .ok placed
    else
      match g.detectCycles with
      | .error e => .error e
      | .ok () => .error .unknownCycle

end AttributeRelease.Graph
