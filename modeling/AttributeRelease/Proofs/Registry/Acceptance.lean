import AttributeRelease.Proofs.Distinct
import AttributeRelease.Proofs.Registry.Order

/-!
# Registries that are accepted

A registry passes its check if and only if no links between its plugins lead around, every plugin
but the connectors can be used, and every connector leads along its failovers to one that can.  The
check always comes to an end, and it does not matter in which order the plugins are gone through.
-/

namespace AttributeRelease

variable {σ : Type}

namespace Registry

/-! ## What is accepted -/

/-- A connector names another one as its failover. -/
def FailsOver (r : Registry σ) (c d : Connector σ) : Prop :=
  d ∈ r.connectors ∧ c.failover = some d.id

/-- Along its failovers, a connector leads to one that can be used, which may be itself. -/
def Backed (r : Registry σ) (s : σ) (c : Connector σ) : Prop :=
  ∃ d, Relation.ReflTransGen r.FailsOver c d ∧ (d.check s).1 = .ok ()

/-- A registry with plugins that can be used, at a state of the world. -/
structure Acceptable (r : Registry σ) (s : σ) : Prop where
  acyclic : ∀ path, ¬ r.ClosedPath path
  connectors : ∀ c ∈ r.connectors, r.Backed s c
  definitions : ∀ d ∈ r.definitions, (d.check s).1 = .ok ()
  principals : ∀ p ∈ r.principals, (p.check s).1 = .ok ()

/-- Checks of a connector and then of those that it fails over to, up to one that succeeds. -/
inductive Backs (r : Registry σ) : Connector σ → σ → σ → Prop
  | usable {c : Connector σ} {s s' : σ} (usable : c.check s = (.ok (), s')) : Backs r c s s'
  | next {c d : Connector σ} {s s₁ s' : σ} {e : ResolutionError}
      (failed : c.check s = (.error e, s₁)) (failsOver : r.FailsOver c d) (rest : Backs r d s₁ s') :
      Backs r c s s'

/-- Items that succeed one after the other. -/
inductive EachPasses {α : Type} (pass : α → σ → σ → Prop) : List α → σ → σ → Prop
  | nil {s : σ} : EachPasses pass [] s s
  | cons {a : α} {rest : List α} {s s₁ s' : σ} (first : pass a s s₁)
      (next : EachPasses pass rest s₁ s') : EachPasses pass (a :: rest) s s'

/-- A check of an item that ends well. -/
def Succeeds {α : Type} (check : α → σ → Except ResolutionError Unit × σ) (a : α) (s s' : σ) :
    Prop :=
  check a s = (.ok (), s')

/-- The plugins of a registry succeed one after the other, connectors through their failovers. -/
def Passes (r : Registry σ) (s s' : σ) : Prop :=
  ∃ s₁ s₂, EachPasses r.Backs r.connectors s s₁ ∧
    EachPasses (Succeeds Definition.check) r.definitions s₁ s₂ ∧
    EachPasses (Succeeds PrincipalConnector.check) r.principals s₂ s'

/-- The checks of all plugins. -/
def checks (r : Registry σ) : List (σ → Except ResolutionError Unit × σ) :=
  r.connectors.map (·.check) ++ r.definitions.map (·.check) ++ r.principals.map (·.check)

/-- The states of the world that checks lead to. -/
inductive CheckedFrom (r : Registry σ) (s : σ) : σ → Prop
  | start : CheckedFrom r s s
  | step {check : σ → Except ResolutionError Unit × σ} {s' : σ} (mem : check ∈ r.checks)
      (h : CheckedFrom r s s') : CheckedFrom r s (check s').2

/-- Checks do not change which plugins can be used. -/
def Unchanging (r : Registry σ) (s : σ) : Prop :=
  ∀ check ∈ r.checks, ∀ s', r.CheckedFrom s s' → ((check s').1 = .ok () ↔ (check s).1 = .ok ())

/-- A connector is checked, and while that fails the connectors that it fails over to, without any
bound on how many these are. -/
inductive Tries (r : Registry σ) (start : String) :
    List String → Connector σ → σ → Except ResolutionError Unit × σ → Prop
  | usable {tried : List String} {c : Connector σ} {s s' : σ} (usable : c.check s = (.ok (), s')) :
      Tries r start tried c s (.ok (), s')
  | alone {tried : List String} {c : Connector σ} {s s' : σ} {e : ResolutionError}
      (failed : c.check s = (.error e, s')) (alone : c.failover = none) :
      Tries r start tried c s (.error e, s')
  | again {tried : List String} {c : Connector σ} {s s' : σ} {e : ResolutionError}
      {other : String} (failed : c.check s = (.error e, s')) (other_eq : c.failover = some other)
      (again : other ∈ tried) :
      Tries r start tried c s
        (.error (.circularDependency s!"failover chain of '{start}' revisits '{other}'"), s')
  | unknown {tried : List String} {c : Connector σ} {s s' : σ} {e : ResolutionError}
      {other : String} (failed : c.check s = (.error e, s')) (other_eq : c.failover = some other)
      (fresh : other ∉ tried) (unknown : r.connector? other = none) :
      Tries r start tried c s (.error (.unknownDataConnector other), s')
  | next {tried : List String} {c d : Connector σ} {s s' : σ} {e : ResolutionError}
      {other : String} {answer : Except ResolutionError Unit × σ}
      (failed : c.check s = (.error e, s')) (other_eq : c.failover = some other)
      (fresh : other ∉ tried) (found : r.connector? other = some d)
      (rest : Tries r start (other :: tried) d s' answer) : Tries r start tried c s answer

/-! ## The order of links -/

variable {r : Registry σ}

/-- A path along edges of the graph is one along links. -/
theorem closedPath_of_graph {g : Graph}
    (hedges : ∀ a b, g.Edge a b → r.Links a b ∧ r.contains b = true) {path : List String}
    (h : g.ClosedPath path) : r.ClosedPath path := by
  obtain ⟨⟨id, between, rfl⟩, hlinked⟩ := h
  refine ⟨⟨id, between, rfl⟩, ?_, hlinked.imp fun a b hedge => (hedges a b hedge).1⟩
  -- every id but the first is what an edge leads to, and the first one is also the last
  have hknown : (id :: (between ++ [id])).IsChain fun _ b => r.contains b = true :=
    hlinked.imp fun a b hedge => (hedges a b hedge).2
  have htail : ∀ b ∈ between ++ [id], r.contains b = true := fun b hb =>
    have : IsTrans String fun _ b => r.contains b = true := ⟨fun _ _ _ _ h => h⟩
    List.rel_of_pairwise_cons (List.isChain_iff_pairwise.mp hknown) hb
  intro b hb
  rcases List.mem_cons.mp hb with rfl | hmem
  · exact htail b (List.mem_append_right _ List.mem_cons_self)
  · exact htail b hmem

/-- There is an order if and only if no links lead around. -/
theorem checkOrder_eq_ok_iff (h : r.pluginIds.Nodup) :
    r.checkOrder = .ok () ↔ ∀ path, ¬ r.ClosedPath path := by
  constructor
  · exact fun horder => (descends_of_checkOrder h horder).no_closedPath
  · intro hacyclic
    obtain ⟨g, hg, hids, hedges⟩ := graph_ok h
    have hnodup : g.ids.Nodup := hids.nodup_iff.mpr h
    have hknown : ∀ n ∈ g.nodes, ∀ d ∈ n.dependencies, d ∈ g.ids := by
      intro n hn d hd
      rw [hids.mem_iff, ← contains_iff_mem_pluginIds]
      exact ((hedges n.id d).mp ⟨n, hn, rfl, hd⟩).2
    have hsearch : g.detectCycles = .ok () := by
      cases hresult : g.detectCycles with
      | ok _ => rfl
      | error e =>
          obtain ⟨path, -, hclosed⟩ := Graph.detectCycles_error hresult
          exact absurd (closedPath_of_graph (fun a b => (hedges a b).mp) hclosed) (hacyclic path)
    obtain ⟨ids, horder⟩ := (Graph.order_of_detectCycles hnodup hknown).1 hsearch
    rw [checkOrder, show r.order = g.order by rw [order, hg]; rfl, horder]

/-! ## Chains of failovers -/

/-- The connector with an id is the only one with it. -/
theorem connector?_eq_some_iff (h : r.connectorIds.Nodup) {id : String} {c : Connector σ} :
    r.connector? id = some c ↔ c ∈ r.connectors ∧ c.id = id :=
  find?_eq_some_iff_of_nodup h

/-- The failover of a connector, if there is one, is the only connector that it fails over to. -/
theorem failsOver_iff (h : r.connectorIds.Nodup) {c d : Connector σ} :
    r.FailsOver c d ↔ ∃ other, c.failover = some other ∧ r.connector? other = some d := by
  constructor
  · rintro ⟨hd, hfailover⟩
    exact ⟨d.id, hfailover, (connector?_eq_some_iff h).mpr ⟨hd, rfl⟩⟩
  · rintro ⟨other, hfailover, hd⟩
    obtain ⟨hmem, rfl⟩ := (connector?_eq_some_iff h).mp hd
    exact ⟨hmem, hfailover⟩

/-- The room for a chain is enough: the ids that were tried are those of different connectors. -/
theorem checkChain_tries (r : Registry σ) (start : String) (room : Nat) {tried : List String}
    (hnodup : tried.Nodup) (hregistered : tried ⊆ r.connectorIds)
    (hroom : r.connectors.length < room + tried.length) (c : Connector σ) (s : σ) :
    r.Tries start tried c s (r.checkChain start room tried c s) := by
  induction room generalizing tried c s with
  | zero =>
      have hlength := (List.subperm_of_subset hnodup hregistered).length_le
      rw [connectorIds, List.length_map] at hlength
      omega
  | succ room ih =>
      rw [checkChain]
      rcases hcheck : c.check s with ⟨e | _, s'⟩
      · cases hfailover : c.failover with
        | none => exact .alone hcheck hfailover
        | some other =>
            dsimp only
            by_cases hagain : other ∈ tried
            · rw [if_pos (List.contains_iff_mem.mpr hagain)]
              exact .again hcheck hfailover hagain
            · rw [if_neg fun h => hagain (List.contains_iff_mem.mp h)]
              cases hother : r.connector? other with
              | none => exact .unknown hcheck hfailover hagain hother
              | some d =>
                  have hid : other ∈ r.connectorIds :=
                    (isSome_connector? r other).mp (by rw [hother]; rfl)
                  refine .next hcheck hfailover hagain hother (ih ?_ ?_ ?_ d s')
                  · exact List.nodup_cons.mpr ⟨hagain, hnodup⟩
                  · exact List.cons_subset.mpr ⟨hid, hregistered⟩
                  · rw [List.length_cons]
                    omega
      · exact .usable hcheck

theorem checkChain_tries_start {c : Connector σ} (hc : c ∈ r.connectors) (s : σ) :
    r.Tries c.id [c.id] c s (r.checkChain c.id r.connectors.length [c.id] c s) :=
  r.checkChain_tries c.id r.connectors.length (List.nodup_singleton c.id)
    (List.cons_subset.mpr ⟨List.mem_map_of_mem hc, List.nil_subset _⟩) (Nat.lt_succ_self _) c s

/-- The ids that were tried before a connector are linked, up to the one of the connector. -/
def Trail (r : Registry σ) (tried : List String) (c : Connector σ) : Prop :=
  ∃ before, tried = c.id :: before ∧ r.Tied before [.connector c.id]

/-- A chain that tries a connector again has gone around a cycle. -/
theorem Trail.closedPath {tried : List String} {c : Connector σ} (h : r.Trail tried c)
    (hc : r.connector? c.id = some c) {other : String} (hother : c.failover = some other)
    (again : other ∈ tried) : ∃ path, r.ClosedPath path := by
  obtain ⟨before, rfl, htied⟩ := h
  exact ⟨_, (htied.failover (work?_connector hc) hother).closedPath again⟩

theorem Trail.next {tried : List String} {c d : Connector σ} (h : r.Trail tried c)
    (hc : r.connector? c.id = some c) (hother : c.failover = some d.id) :
    r.Trail (d.id :: tried) d := by
  obtain ⟨before, rfl, htied⟩ := h
  exact ⟨_, rfl, htied.failover (work?_connector hc) hother⟩

/-- Where no links lead around, a chain ends well if and only if it comes to a connector whose check
succeeds. -/
theorem Tries.eq_ok_iff (hnodup : r.connectorIds.Nodup) (hacyclic : ∀ path, ¬ r.ClosedPath path)
    {start : String} {tried : List String} {c : Connector σ} {s s' : σ}
    {answer : Except ResolutionError Unit × σ} (h : r.Tries start tried c s answer)
    (hc : c ∈ r.connectors) (htrail : r.Trail tried c) :
    answer = (.ok (), s') ↔ r.Backs c s s' := by
  have hfound : ∀ {c : Connector σ}, c ∈ r.connectors → r.connector? c.id = some c :=
    fun hc => (connector?_eq_some_iff hnodup).mpr ⟨hc, rfl⟩
  induction h with
  | usable usable =>
      constructor
      · intro heq
        cases heq
        exact .usable usable
      · rintro (usable' | ⟨failed, -, -⟩)
        · exact usable.symm.trans usable'
        · cases usable.symm.trans failed
  | alone failed alone =>
      refine iff_of_false (fun heq => by cases heq) ?_
      rintro (usable | ⟨-, ⟨-, hfailover⟩, -⟩)
      · cases failed.symm.trans usable
      · cases alone.symm.trans hfailover
  | again failed other_eq again =>
      obtain ⟨path, hclosed⟩ := htrail.closedPath (hfound hc) other_eq again
      exact absurd hclosed (hacyclic path)
  | unknown failed other_eq fresh unknown =>
      refine iff_of_false (fun heq => by cases heq) ?_
      rintro (usable | ⟨-, ⟨hd, hfailover⟩, -⟩)
      · cases failed.symm.trans usable
      · cases other_eq.symm.trans hfailover
        cases unknown.symm.trans (hfound hd)
  | @next tried c d s s₁ e other answer failed other_eq fresh found rest ih =>
      obtain ⟨hd, rfl⟩ := (connector?_eq_some_iff hnodup).mp found
      refine (ih hd (htrail.next (hfound hc) other_eq)).trans ⟨.next failed ⟨hd, other_eq⟩, ?_⟩
      rintro (usable | ⟨failed', hfailsOver, hrest⟩)
      · cases failed.symm.trans usable
      · obtain ⟨other, hother, hd'⟩ := (failsOver_iff hnodup).mp hfailsOver
        cases failed.symm.trans failed'
        cases other_eq.symm.trans hother
        cases found.symm.trans hd'
        exact hrest

/-- The check of a connector ends well where it comes to a connector whose check succeeds. -/
theorem checkChain_eq_ok_iff (hnodup : r.connectorIds.Nodup)
    (hacyclic : ∀ path, ¬ r.ClosedPath path) {c : Connector σ} (hc : c ∈ r.connectors) (s s' : σ) :
    r.checkChain c.id r.connectors.length [c.id] c s = (.ok (), s') ↔ r.Backs c s s' :=
  (checkChain_tries_start hc s).eq_ok_iff hnodup hacyclic hc ⟨[], rfl, .nil _⟩

/-! ## Checks one after the other -/

section Each

variable {α : Type} {pass : α → σ → σ → Prop} {items : List α}

theorem checkEach_eq_ok_iff {check : α → σ → Except ResolutionError Unit × σ}
    (h : ∀ a ∈ items, ∀ s s', check a s = (.ok (), s') ↔ pass a s s') (s s' : σ) :
    checkEach check items s = (.ok (), s') ↔ EachPasses pass items s s' := by
  induction items generalizing s with
  | nil =>
      constructor
      · intro heq
        cases heq
        exact .nil
      · intro hpasses
        cases hpasses
        rfl
  | cons a rest ih =>
      have hfirst := h a List.mem_cons_self s
      have hrest := ih fun b hb => h b (List.mem_cons_of_mem a hb)
      rw [checkEach]
      rcases hcheck : check a s with ⟨e | _, s₁⟩
      · refine iff_of_false (fun heq => by cases heq) ?_
        rintro (_ | ⟨first, -⟩)
        cases hcheck.symm.trans ((hfirst _).mpr first)
      · refine (hrest s₁).trans ⟨.cons ((hfirst s₁).mp hcheck), ?_⟩
        rintro (_ | ⟨first, next⟩)
        cases hcheck.symm.trans ((hfirst _).mpr first)
        exact next

variable {reached : σ → Prop} {good : α → Prop}

/-- Items that succeed are good, where none of them leads out of the states of the world that are
reached. -/
theorem EachPasses.forall_mem {s s' : σ} (hpasses : EachPasses pass items s s')
    (h : ∀ a ∈ items, ∀ s s', reached s → pass a s s' → reached s' ∧ good a) (hs : reached s) :
    reached s' ∧ ∀ a ∈ items, good a := by
  induction hpasses with
  | nil => exact ⟨hs, List.forall_mem_nil _⟩
  | @cons a rest s s₁ s' first _ ih =>
      obtain ⟨hreached, hgood⟩ := h a List.mem_cons_self s s₁ hs first
      obtain ⟨hlast, hrest⟩ := ih (fun b hb => h b (List.mem_cons_of_mem a hb)) hreached
      exact ⟨hlast, List.forall_mem_cons.mpr ⟨hgood, hrest⟩⟩

theorem eachPasses_of_forall_mem
    (h : ∀ a ∈ items, ∀ s, reached s → ∃ s', reached s' ∧ pass a s s') {s : σ} (hs : reached s) :
    ∃ s', reached s' ∧ EachPasses pass items s s' := by
  induction items generalizing s with
  | nil => exact ⟨s, hs, .nil⟩
  | cons a rest ih =>
      obtain ⟨s₁, hreached, hfirst⟩ := h a List.mem_cons_self s hs
      obtain ⟨s', hlast, hrest⟩ := ih (fun b hb => h b (List.mem_cons_of_mem a hb)) hreached
      exact ⟨s', hlast, .cons hfirst hrest⟩

end Each

/-- The checks of all plugins end well if and only if the plugins succeed one after the other. -/
theorem checkPlugins_eq_ok_iff (hnodup : r.connectorIds.Nodup)
    (hacyclic : ∀ path, ¬ r.ClosedPath path) (s s' : σ) :
    r.checkPlugins s = (.ok (), s') ↔ r.Passes s s' := by
  have hconnectors := checkEach_eq_ok_iff fun c hc => checkChain_eq_ok_iff hnodup hacyclic hc
  have hdefinitions := checkEach_eq_ok_iff fun d (_ : d ∈ r.definitions) s s' =>
    (Iff.rfl : d.check s = (.ok (), s') ↔ Succeeds Definition.check d s s')
  have hprincipals := checkEach_eq_ok_iff fun p (_ : p ∈ r.principals) s s' =>
    (Iff.rfl : p.check s = (.ok (), s') ↔ Succeeds PrincipalConnector.check p s s')
  rw [checkPlugins]
  constructor
  · intro heq
    rcases hfirst : checkEach (fun c => r.checkChain c.id r.connectors.length [c.id] c)
      r.connectors s with ⟨e | _, s₁⟩
    · rw [hfirst] at heq
      cases heq
    rw [hfirst] at heq
    dsimp only at heq
    rcases hsecond : checkEach Definition.check r.definitions s₁ with ⟨e | _, s₂⟩
    · rw [hsecond] at heq
      cases heq
    rw [hsecond] at heq
    exact ⟨s₁, s₂, (hconnectors s s₁).mp hfirst, (hdefinitions s₁ s₂).mp hsecond,
      (hprincipals s₂ s').mp heq⟩
  · rintro ⟨s₁, s₂, hfirst, hsecond, hthird⟩
    rw [(hconnectors s s₁).mpr hfirst]
    dsimp only
    rw [(hdefinitions s₁ s₂).mpr hsecond]
    exact (hprincipals s₂ s').mpr hthird

/-- Whatever checks do to the world, a registry passes if and only if no links lead around and its
plugins succeed one after the other. -/
theorem check_eq_ok_iff (hnodup : r.pluginIds.Nodup) (s s' : σ) :
    r.check s = (.ok (), s') ↔ (∀ path, ¬ r.ClosedPath path) ∧ r.Passes s s' := by
  have horder := checkOrder_eq_ok_iff hnodup
  rw [check]
  cases hresult : r.checkOrder with
  | error e =>
      rw [hresult] at horder
      refine iff_of_false (fun heq => by cases heq) fun hpasses => ?_
      cases horder.mpr hpasses.1
  | ok _ =>
      rw [hresult] at horder
      have hacyclic := horder.mp rfl
      exact (checkPlugins_eq_ok_iff hnodup.of_append_left hacyclic s s').trans
        (and_iff_right hacyclic).symm

/-! ## Checks that change nothing -/

theorem connector_mem_checks {c : Connector σ} (h : c ∈ r.connectors) : c.check ∈ r.checks :=
  List.mem_append_left _ (List.mem_append_left _ (List.mem_map_of_mem h))

theorem definition_mem_checks {d : Definition σ} (h : d ∈ r.definitions) : d.check ∈ r.checks :=
  List.mem_append_left _ (List.mem_append_right _ (List.mem_map_of_mem h))

theorem principal_mem_checks {p : PrincipalConnector σ} (h : p ∈ r.principals) :
    p.check ∈ r.checks :=
  List.mem_append_right _ (List.mem_map_of_mem h)

section Unchanging

variable {s s' s'' : σ}

/-- An item that succeeds later succeeds at first. -/
theorem Unchanging.first (h : r.Unchanging s) (hs : r.CheckedFrom s s') {α : Type}
    {check : α → σ → Except ResolutionError Unit × σ} {a : α} (mem : check a ∈ r.checks)
    (hcheck : Succeeds check a s' s'') : r.CheckedFrom s s'' ∧ (check a s).1 = .ok () := by
  have hnext : r.CheckedFrom s (check a s').2 := .step mem hs
  have hfirst := (h (check a) mem s' hs).mp
  rw [hcheck] at hnext hfirst
  exact ⟨hnext, hfirst rfl⟩

/-- An item that succeeds at first succeeds later. -/
theorem Unchanging.later (h : r.Unchanging s) (hs : r.CheckedFrom s s') {α : Type}
    {check : α → σ → Except ResolutionError Unit × σ} {a : α} (mem : check a ∈ r.checks)
    (hcheck : (check a s).1 = .ok ()) : ∃ s'', r.CheckedFrom s s'' ∧ Succeeds check a s' s'' :=
  ⟨(check a s').2, .step mem hs, Prod.ext ((h (check a) mem s' hs).mpr hcheck) rfl⟩

theorem Backs.backed (hunchanging : r.Unchanging s) {c : Connector σ} (h : r.Backs c s' s'')
    (hc : c ∈ r.connectors) (hs : r.CheckedFrom s s') : r.CheckedFrom s s'' ∧ r.Backed s c := by
  induction h with
  | usable usable =>
      obtain ⟨hnext, hfirst⟩ := hunchanging.first hs (connector_mem_checks hc) usable
      exact ⟨hnext, _, .refl, hfirst⟩
  | next failed failsOver _ ih =>
      have hnext : r.CheckedFrom s _ := .step (connector_mem_checks hc) hs
      rw [failed] at hnext
      obtain ⟨hlast, last, hpath, husable⟩ := ih failsOver.1 hnext
      exact ⟨hlast, last, .head failsOver hpath, husable⟩

theorem Backed.backs (hunchanging : r.Unchanging s) {c : Connector σ} (h : r.Backed s c)
    (hc : c ∈ r.connectors) (hs : r.CheckedFrom s s') :
    ∃ s'', r.CheckedFrom s s'' ∧ r.Backs c s' s'' := by
  obtain ⟨last, hpath, husable⟩ := h
  induction hpath using Relation.ReflTransGen.head_induction_on generalizing s' with
  | refl =>
      obtain ⟨s'', hnext, hcheck⟩ := hunchanging.later hs (connector_mem_checks hc) husable
      exact ⟨s'', hnext, .usable hcheck⟩
  | @head c d hstep _ ih =>
      have hnext : r.CheckedFrom s (c.check s').2 := .step (connector_mem_checks hc) hs
      rcases hcheck : c.check s' with ⟨e | _, s₁⟩
      · rw [hcheck] at hnext
        obtain ⟨s'', hlast, hrest⟩ := ih hstep.1 hnext
        exact ⟨s'', hlast, .next hcheck hstep hrest⟩
      · rw [hcheck] at hnext
        exact ⟨s₁, hnext, .usable hcheck⟩

/-- The plugins succeed one after the other if and only if each of them can be used at first. -/
theorem passes_iff (hunchanging : r.Unchanging s) :
    (∃ s', r.Passes s s') ↔
      (∀ c ∈ r.connectors, r.Backed s c) ∧ (∀ d ∈ r.definitions, (d.check s).1 = .ok ()) ∧
        ∀ p ∈ r.principals, (p.check s).1 = .ok () := by
  constructor
  · rintro ⟨s₃, s₁, s₂, hfirst, hsecond, hthird⟩
    obtain ⟨hs₁, hconnectors⟩ := hfirst.forall_mem
      (fun c hc s' s'' hs' h => h.backed hunchanging hc hs') .start
    obtain ⟨hs₂, hdefinitions⟩ := hsecond.forall_mem
      (fun d hd s' s'' hs' h => hunchanging.first hs' (definition_mem_checks hd) h) hs₁
    obtain ⟨-, hprincipals⟩ := hthird.forall_mem
      (fun p hp s' s'' hs' h => hunchanging.first hs' (principal_mem_checks hp) h) hs₂
    exact ⟨hconnectors, hdefinitions, hprincipals⟩
  · rintro ⟨hconnectors, hdefinitions, hprincipals⟩
    obtain ⟨s₁, hs₁, hfirst⟩ := eachPasses_of_forall_mem
      (fun c hc s' hs' => (hconnectors c hc).backs hunchanging hc hs') (.start : r.CheckedFrom s s)
    obtain ⟨s₂, hs₂, hsecond⟩ := eachPasses_of_forall_mem
      (fun d hd s' hs' => hunchanging.later hs' (definition_mem_checks hd) (hdefinitions d hd)) hs₁
    obtain ⟨s₃, -, hthird⟩ := eachPasses_of_forall_mem
      (fun p hp s' hs' => hunchanging.later hs' (principal_mem_checks hp) (hprincipals p hp)) hs₂
    exact ⟨s₃, s₁, s₂, hfirst, hsecond, hthird⟩

theorem check_eq_ok_iff_acceptable (hnodup : r.pluginIds.Nodup) (hunchanging : r.Unchanging s) :
    (r.check s).1 = .ok () ↔ r.Acceptable s := by
  have hpasses : (r.check s).1 = .ok () ↔ ∃ s', r.check s = (.ok (), s') := by
    constructor
    · exact fun h => ⟨(r.check s).2, Prod.ext h rfl⟩
    · rintro ⟨s', h⟩
      rw [h]
  simp only [hpasses, check_eq_ok_iff hnodup, exists_and_left, passes_iff hunchanging]
  constructor
  · rintro ⟨hacyclic, hconnectors, hdefinitions, hprincipals⟩
    exact ⟨hacyclic, hconnectors, hdefinitions, hprincipals⟩
  · exact fun h => ⟨h.acyclic, h.connectors, h.definitions, h.principals⟩

end Unchanging

/-! ## Other orders of the same plugins -/

/-- The same plugins, in another order. -/
structure Shuffled (r r' : Registry σ) : Prop where
  connectors : r.connectors.Perm r'.connectors
  definitions : r.definitions.Perm r'.definitions
  principals : r.principals.Perm r'.principals

namespace Shuffled

variable {r' : Registry σ} {s : σ}

theorem symm (h : r.Shuffled r') : r'.Shuffled r :=
  ⟨h.connectors.symm, h.definitions.symm, h.principals.symm⟩

theorem pluginIds (h : r.Shuffled r') : r.pluginIds.Perm r'.pluginIds :=
  (h.connectors.map _).append (h.definitions.map _)

theorem checks (h : r.Shuffled r') : r.checks.Perm r'.checks :=
  ((h.connectors.map _).append (h.definitions.map _)).append (h.principals.map _)

theorem checkedFrom (h : r.Shuffled r') {s' : σ} (hs : r'.CheckedFrom s s') :
    r.CheckedFrom s s' := by
  induction hs with
  | start => exact .start
  | step mem _ ih => exact .step (h.checks.mem_iff.mpr mem) ih

theorem unchanging (h : r.Shuffled r') (hunchanging : r.Unchanging s) : r'.Unchanging s :=
  fun check mem s' hs' => hunchanging check (h.checks.mem_iff.mpr mem) s' (h.checkedFrom hs')

theorem links (h : r.Shuffled r') : r.Links = r'.Links := by
  funext a b
  simp only [Links, h.connectors.mem_iff, h.definitions.mem_iff]

theorem failsOver (h : r.Shuffled r') : r.FailsOver = r'.FailsOver := by
  funext c d
  simp only [FailsOver, h.connectors.mem_iff]

theorem contains (h : r.Shuffled r') (id : String) : r.contains id = r'.contains id := by
  rw [Bool.eq_iff_iff, contains_iff_mem_pluginIds, contains_iff_mem_pluginIds,
    h.pluginIds.mem_iff]

theorem closedPath (h : r.Shuffled r') {path : List String} (hclosed : r.ClosedPath path) :
    r'.ClosedPath path where
  returns := hclosed.returns
  registered id hid := (h.contains id).symm.trans (hclosed.registered id hid)
  linked := h.links ▸ hclosed.linked

theorem acceptable (h : r.Shuffled r') (hr : r.Acceptable s) : r'.Acceptable s where
  acyclic path hclosed := hr.acyclic path (h.symm.closedPath hclosed)
  connectors c hc := by
    rw [Backed, ← h.failsOver]
    exact hr.connectors c (h.connectors.mem_iff.mpr hc)
  definitions d hd := hr.definitions d (h.definitions.mem_iff.mpr hd)
  principals p hp := hr.principals p (h.principals.mem_iff.mpr hp)

theorem acceptable_iff (h : r.Shuffled r') : r.Acceptable s ↔ r'.Acceptable s :=
  ⟨h.acceptable, h.symm.acceptable⟩

end Shuffled

/-- A registry passes its check if and only if no links lead around and its plugins succeed one
after the other, a connector through its failovers.  Where checks do not change which plugins can be
used, it does if and only if no links lead around, every connector leads along its failovers to one
that can be used, and all definitions and principal connectors can be used; the same plugins in
another order then pass, too.  In any case a chain of failovers is followed to its end. -/
theorem accepted_iff (hbuilt : r.Built) :
    (∀ s s', r.check s = (.ok (), s') ↔ (∀ path, ¬ r.ClosedPath path) ∧ r.Passes s s') ∧
    (∀ s, r.Unchanging s → ((r.check s).1 = .ok () ↔ r.Acceptable s)) ∧
    (∀ c ∈ r.connectors, ∀ s,
      r.Tries c.id [c.id] c s (r.checkChain c.id r.connectors.length [c.id] c s)) ∧
    ∀ r', r.Shuffled r' → ∀ s, r.Unchanging s →
      ((r'.check s).1 = .ok () ↔ (r.check s).1 = .ok ()) := by
  refine ⟨check_eq_ok_iff hbuilt.nodup,
    fun s hunchanging => check_eq_ok_iff_acceptable hbuilt.nodup hunchanging,
    fun c hc s => checkChain_tries_start hc s, ?_⟩
  intro r' hshuffled s hunchanging
  have hnodup' : r'.pluginIds.Nodup := hshuffled.pluginIds.nodup_iff.mp hbuilt.nodup
  rw [check_eq_ok_iff_acceptable hbuilt.nodup hunchanging, hshuffled.acceptable_iff,
    check_eq_ok_iff_acceptable hnodup' (hshuffled.unchanging hunchanging)]

/-! ## A connector that is put up with -/

/-- A connector that cannot be used, for want of a setting. -/
def unset (id : String) (failover : Option String) : Connector Unit :=
  { id, dependencies := [], failover, resolve := fun _ _ s => (.ok [], s),
    check := fun s => (.error (.internal "not set"), s) }

def backup : Connector Unit :=
  { id := "backup", dependencies := [], failover := none, resolve := fun _ _ s => (.ok [], s),
    check := fun s => (.ok (), s) }

def surname : Definition Unit :=
  { id := "surname", dependencies := ["primary"], dependencyOnly := false,
    resolve := fun _ _ s => (.ok (.empty "surname"), s), check := fun s => (.ok (), s) }

/-- The second failover of the first connector can be used. -/
def tolerant : Registry Unit :=
  ⟨[unset "primary" (some "secondary"), unset "secondary" (some "backup"), backup], [surname], []⟩

/-- The connectors of `tolerant`, the other way around. -/
def tolerantReversed : Registry Unit := { tolerant with connectors := tolerant.connectors.reverse }

theorem tolerant_built : tolerant.Built :=
  .definition (d := surname)
    (.connector (c := backup)
      (.connector (c := unset "secondary" (some "backup"))
        (.connector (c := unset "primary" (some "secondary")) .empty rfl) rfl) rfl) rfl

theorem accepted_iff_tolerant :
    tolerant.Built ∧ tolerant.Unchanging () ∧ tolerant.Shuffled tolerantReversed ∧
    tolerant.Passes () () ∧ tolerant.Acceptable () ∧ (tolerantReversed.check ()).1 = .ok () := by
  have hunchanging : tolerant.Unchanging () := fun _ _ _ _ => Iff.rfl
  have hshuffled : tolerant.Shuffled tolerantReversed :=
    ⟨(List.reverse_perm _).symm, .refl _, .refl _⟩
  obtain ⟨hpasses, hiff, -, hreordered⟩ := accepted_iff tolerant_built
  have haccepted : tolerant.check () = (.ok (), ()) := rfl
  have hok : (tolerant.check ()).1 = .ok () := rfl
  exact ⟨tolerant_built, hunchanging, hshuffled, ((hpasses () ()).mp haccepted).2,
    (hiff () hunchanging).mp hok, (hreordered _ hshuffled () hunchanging).mpr hok⟩

end Registry

end AttributeRelease
