import AttributeRelease.Proofs.Graph.Cycle
import AttributeRelease.Proofs.Graph.Plugins
import Mathlib.Data.List.Induction

/-!
# Orders and searches agree

In a graph that was made by adding plugins and linking them, no two plugins have one id, and edges
lead to plugins of the graph: those that a plugin was added with and that were there when the graph
was linked last.  There the counts and the search come to the same result: an order, or a cycle that
shows why there is none.
-/

namespace AttributeRelease.Graph

/-- A change of a graph. -/
inductive Change
  | add (id : String) (dependencies : List String)
  | link

/-- The graph after a change.  One that is refused leaves it as it is. -/
def change (g : Graph) : Change → Graph
  | .add id dependencies =>
      match g.add id dependencies with
      | .ok g' => g'
      | .error _ => g
  | .link => g.link

/-- The graph that changes make of the empty one. -/
def made (changes : List Change) : Graph := changes.foldl change empty

/-! ## What changes make -/

theorem change_add_of_mem {g : Graph} {id : String} (h : id ∈ g.ids)
    (dependencies : List String) : g.change (.add id dependencies) = g := by
  rw [change, add, if_pos (contains_iff_mem_ids.mpr h)]

theorem change_add_of_notMem {g : Graph} {id : String} (h : id ∉ g.ids)
    (dependencies : List String) :
    g.change (.add id dependencies) = ⟨insertNode ⟨id, keepFirst dependencies, []⟩ g.nodes⟩ := by
  rw [change, add, if_neg (fun hmem => h (contains_iff_mem_ids.mp hmem))]

theorem made_concat (changes : List Change) (c : Change) :
    made (changes ++ [c]) = (made changes).change c := by
  rw [made, List.foldl_append]
  rfl

/-- The plugins of a graph are those that were added. -/
theorem mem_ids_made {changes : List Change} {id : String} :
    id ∈ (made changes).ids ↔ ∃ dependencies, .add id dependencies ∈ changes := by
  induction changes using List.reverseRecOn with
  | nil => simp [made, empty, ids]
  | append_singleton changes c ih =>
      rw [made_concat]
      simp only [List.mem_append, List.mem_singleton, exists_or, ← ih]
      cases c with
      | link =>
          rw [change, ids_link]
          simp
      | add other dependencies =>
          by_cases hmem : other ∈ (made changes).ids
          · rw [change_add_of_mem hmem]
            refine ⟨.inl, ?_⟩
            rintro (hold | ⟨_, hsame⟩)
            · exact hold
            · cases hsame
              exact hmem
          · rw [change_add_of_notMem hmem]
            simp [ids, mem_insertNode, or_comm, eq_comm]

/-- A plugin was added with these dependencies; when it is added again, it is refused. -/
def Declares (changes : List Change) (id : String) (dependencies : List String) : Prop :=
  ∃ before after, changes = before ++ .add id dependencies :: after ∧
    ∀ others, .add id others ∉ before

/-- A change in a longer list of changes is the last one, or it is in the list without that. -/
theorem concat_eq_append_cons_iff {changes before after : List Change} {c c' : Change} :
    changes ++ [c] = before ++ c' :: after ↔
      (after = [] ∧ changes = before ∧ c = c') ∨
        ∃ rest, after = rest ++ [c] ∧ changes = before ++ c' :: rest := by
  constructor
  · intro h
    rcases List.eq_nil_or_concat' after with rfl | ⟨rest, last, rfl⟩
    · obtain ⟨hbefore, hlast⟩ := List.append_inj' h rfl
      exact .inl ⟨rfl, hbefore, List.singleton_inj.mp hlast⟩
    · rw [← List.cons_append, ← List.append_assoc] at h
      obtain ⟨hbefore, hlast⟩ := List.append_inj' h rfl
      exact .inr ⟨rest, by rw [List.singleton_inj.mp hlast], hbefore⟩
  · rintro (⟨rfl, rfl, rfl⟩ | ⟨rest, rfl, rfl⟩)
    · rfl
    · simp

theorem declares_concat_iff {changes : List Change} {c : Change} {id : String}
    {dependencies : List String} :
    Declares (changes ++ [c]) id dependencies ↔ Declares changes id dependencies ∨
      c = .add id dependencies ∧ id ∉ (made changes).ids := by
  rw [mem_ids_made, not_exists]
  constructor
  · rintro ⟨before, after, hsplit, hfirst⟩
    rcases concat_eq_append_cons_iff.mp hsplit with ⟨-, rfl, rfl⟩ | ⟨rest, -, rfl⟩
    · exact .inr ⟨rfl, hfirst⟩
    · exact .inl ⟨before, rest, rfl, hfirst⟩
  · rintro (⟨before, after, rfl, hfirst⟩ | ⟨rfl, hfirst⟩)
    · exact ⟨before, after ++ [c], by simp, hfirst⟩
    · exact ⟨changes, [], rfl, hfirst⟩

/-- A plugin of a graph declares what it was added with. -/
theorem exists_declared_made_iff {changes : List Change} {id d : String} :
    (∃ n ∈ (made changes).nodes, n.id = id ∧ d ∈ n.declared) ↔
      ∃ dependencies, Declares changes id dependencies ∧ d ∈ dependencies := by
  induction changes using List.reverseRecOn with
  | nil => simp [made, empty, Declares]
  | append_singleton changes c ih =>
      rw [made_concat]
      simp only [declares_concat_iff, or_and_right, exists_or, ← ih]
      cases c with
      | link => simp [change, link]
      | add other dependencies =>
          by_cases hmem : other ∈ (made changes).ids
          · rw [change_add_of_mem hmem]
            refine ⟨.inl, ?_⟩
            rintro (hold | ⟨_, ⟨hsame, hnew⟩, _⟩)
            · exact hold
            · cases hsame
              exact absurd hmem hnew
          · rw [change_add_of_notMem hmem]
            simp only [mem_insertNode, or_and_right, exists_or, exists_eq_left, mem_keepFirst]
            rw [or_comm]
            refine or_congr_right ⟨?_, ?_⟩
            · rintro ⟨rfl, hd⟩
              exact ⟨dependencies, ⟨rfl, hmem⟩, hd⟩
            · rintro ⟨_, ⟨hsame, -⟩, hd⟩
              cases hsame
              exact ⟨rfl, hd⟩

/-- Linking makes edges of the declared dependencies that are there. -/
theorem edge_link_iff {g : Graph} {a b : String} :
    g.link.Edge a b ↔ (∃ n ∈ g.nodes, n.id = a ∧ b ∈ n.declared) ∧ b ∈ g.ids := by
  rw [← contains_iff_mem_ids]
  constructor
  · rintro ⟨n, hn, rfl, hb⟩
    obtain ⟨m, hm, rfl⟩ := List.mem_map.mp hn
    obtain ⟨hdeclared, hknown⟩ := List.mem_filter.mp hb
    exact ⟨⟨m, hm, rfl, hdeclared⟩, hknown⟩
  · rintro ⟨⟨n, hn, rfl, hdeclared⟩, hknown⟩
    exact ⟨_, List.mem_map_of_mem hn, rfl, List.mem_filter.mpr ⟨hdeclared, hknown⟩⟩

/-- A plugin that is added has no edges yet. -/
theorem edge_change_add_iff {g : Graph} {id a b : String} {dependencies : List String} :
    (g.change (.add id dependencies)).Edge a b ↔ g.Edge a b := by
  by_cases hmem : id ∈ g.ids
  · rw [change_add_of_mem hmem]
  · rw [change_add_of_notMem hmem]
    simp [Edge, mem_insertNode]

/-- An edge is a dependency that was declared and was there when the graph was linked last. -/
theorem edge_made_iff {changes : List Change} {a b : String} :
    (made changes).Edge a b ↔ ∃ earlier later dependencies,
      changes = earlier ++ .link :: later ∧ .link ∉ later ∧
        Declares earlier a dependencies ∧ b ∈ dependencies ∧ b ∈ (made earlier).ids := by
  induction changes using List.reverseRecOn with
  | nil => simp [made, empty, Edge]
  | append_singleton changes c ih =>
      rw [made_concat]
      cases c with
      | link =>
          rw [change, edge_link_iff, exists_declared_made_iff]
          constructor
          · rintro ⟨⟨dependencies, hdeclares, hb⟩, hknown⟩
            exact ⟨changes, [], dependencies, rfl, List.not_mem_nil, hdeclares, hb, hknown⟩
          · rintro ⟨earlier, later, dependencies, hsplit, hlast, hdeclares, hb, hknown⟩
            rcases concat_eq_append_cons_iff.mp hsplit with ⟨-, rfl, -⟩ | ⟨rest, rfl, -⟩
            · exact ⟨⟨dependencies, hdeclares, hb⟩, hknown⟩
            · exact absurd (List.mem_append_right _ List.mem_cons_self) hlast
      | add id others =>
          rw [edge_change_add_iff, ih]
          constructor
          · rintro ⟨earlier, later, dependencies, rfl, hlast, hrest⟩
            exact ⟨earlier, later ++ [.add id others], dependencies, by simp, by simp [hlast],
              hrest⟩
          · rintro ⟨earlier, later, dependencies, hsplit, hlast, hrest⟩
            rcases concat_eq_append_cons_iff.mp hsplit with ⟨-, -, hlink⟩ | ⟨rest, rfl, rfl⟩
            · cases hlink
            · exact ⟨earlier, rest, dependencies, rfl, fun h => hlast (by simp [h]), hrest⟩

/-! ## Orders and cycles -/

/-- What every change keeps. -/
structure Wired (g : Graph) : Prop where
  nodup : g.ids.Nodup
  known : ∀ n ∈ g.nodes, ∀ d ∈ n.dependencies, d ∈ g.ids

namespace Wired

theorem add {g g' : Graph} {id : String} {dependencies : List String} (h : g.Wired)
    (hadd : g.add id dependencies = .ok g') : g'.Wired where
  nodup := by
    have hnew : id ∉ g.ids := (add_eq_ok hadd).1
    exact (ids_of_add hadd).nodup_iff.mpr (List.nodup_cons.mpr ⟨hnew, h.nodup⟩)
  known n hn d hd := by
    rcases (mem_nodes_add hadd).mp hn with rfl | hold
    · cases hd
    · obtain ⟨m, hm, rfl⟩ := List.mem_map.mp (h.known n hold d hd)
      exact List.mem_map_of_mem ((mem_nodes_add hadd).mpr (.inr hm))

theorem link {g : Graph} (h : g.Wired) : g.link.Wired where
  nodup := by
    rw [ids_link]
    exact h.nodup
  known n hn d hd := by
    obtain ⟨m, _, rfl⟩ := List.mem_map.mp hn
    rw [ids_link]
    exact contains_iff_mem_ids.mp (List.mem_filter.mp hd).2

theorem change {g : Graph} (h : g.Wired) (c : Change) : (g.change c).Wired := by
  cases c with
  | add id dependencies =>
      rw [Graph.change]
      split
      · next hadd => exact h.add hadd
      · exact h
  | link => exact h.link

theorem made (changes : List Change) : (made changes).Wired := by
  have hfold : ∀ g : Graph, g.Wired → (changes.foldl Graph.change g).Wired := by
    induction changes with
    | nil => exact fun g h => h
    | cons c rest ih => exact fun g h => ih _ (h.change c)
  exact hfold empty ⟨List.nodup_nil, by simp [empty]⟩

end Wired

/-- Whatever plugins were added and linked: no count falls below zero, and the order and the search
both succeed where no edges lead around.  The order then has every plugin once, after all that it
depends on.  Otherwise both fail with a path along edges that ends where it starts.  There is no
bound on how far either of them goes; that they come to an end is part of their definitions. -/
theorem order_or_cycle (changes : List Change) :
    (∃ placed, (made changes).place (made changes).start = .ok placed) ∧
    ((∃ ids, (made changes).order = .ok ids) ↔ (made changes).Acyclic) ∧
    (∀ ids, (made changes).order = .ok ids →
      ids.Nodup ∧ (∀ id, id ∈ ids ↔ id ∈ (made changes).ids) ∧
        ∀ a b, (made changes).Edge a b → ids.idxOf b < ids.idxOf a) ∧
    (∀ e, (made changes).order = .error e →
      (made changes).detectCycles = .error e ∧
        ∃ path, e = .circular path ∧ (made changes).ClosedPath path ∧
          e.message = "Circular dependency detected: " ++ " -> ".intercalate path) ∧
    ((made changes).detectCycles = .ok () ↔ ∃ ids, (made changes).order = .ok ids) := by
  have hwired := Wired.made changes
  generalize made changes = g at hwired ⊢
  have hagree := order_of_detectCycles hwired.nodup hwired.known
  have hsearch := detectCycles_eq_ok_iff hwired.nodup
  have hacyclic : (∃ ids, g.order = .ok ids) ↔ g.Acyclic :=
    ⟨fun ⟨_, h⟩ => acyclic_of_order hwired.nodup h, fun h => hagree.1 (hsearch.mpr h)⟩
  obtain ⟨last, hplace, _, _⟩ := (placing_start hwired.nodup).place hwired.nodup
  refine ⟨⟨last.placed, hplace⟩, hacyclic, ?_, ?_, hsearch.trans hacyclic.symm⟩
  · intro ids h
    obtain ⟨hperm, hbefore⟩ := order_ok hwired.nodup h
    refine ⟨hperm.nodup_iff.mpr hwired.nodup, fun id => hperm.mem_iff, ?_⟩
    rintro a b ⟨n, hn, rfl, hb⟩
    exact hbefore n hn b hb
  · intro e h
    cases hresult : g.detectCycles with
    | ok _ =>
        obtain ⟨ids, horder⟩ := hagree.1 hresult
        rw [horder] at h
        cases h
    | error e' =>
        have horder := hagree.2 e' hresult
        rw [horder] at h
        cases h
        obtain ⟨path, rfl, hclosed⟩ := detectCycles_error hresult
        exact ⟨rfl, path, rfl, hclosed, rfl⟩

example : (made [.add "a" ["b"], .add "b" ["c"], .add "c" ["a"], .link]).order =
    .error (.circular ["a", "b", "c", "a"]) := by
  decide

end AttributeRelease.Graph
