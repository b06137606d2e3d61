import AttributeRelease.Proofs.Graph.Alike
import AttributeRelease.Proofs.Registry.Acceptance
import AttributeRelease.Resolver

/-!
# Orders of registries

The order of plugins says nothing of the order in which they are gone through, nor of how their
dependencies are listed.  A registry that is gone through in another way has the same graph, so that
even where there is no order the answer is the same.
-/

namespace AttributeRelease

namespace Registry

variable {σ : Type}

/-- Connectors and definitions that are gone through in another order make the same graph. -/
theorem graph_eq_of_perm {r r' : Registry σ} (hnodup : r.pluginIds.Nodup)
    (hconnectors : r.connectors.Perm r'.connectors)
    (hdefinitions : r.definitions.Perm r'.definitions) : r.graph = r'.graph := by
  rw [graph_eq, graph_eq]
  apply Graph.ofPlugins_perm
  · rw [map_fst_dependencyLists]
    exact hnodup
  · exact (hconnectors.map _).append (hdefinitions.map _)

end Registry

namespace Resolver

variable {σ : Type}

/-- Plugins make a graph if and only if no two of them have one id.  Whether it has an order, and
which one, depends on nothing but which ids each plugin declares as dependencies.  The answer of a
resolver is the same in whatever order its connectors and definitions are gone through. -/
theorem order_determined :
    (∀ plugins, (∃ g, Graph.ofPlugins plugins = .ok g) ↔ (plugins.map (·.1)).Nodup) ∧
    (∀ plugins others, Graph.SameDependencies plugins others → ∀ ids,
      (Graph.ofPlugins plugins).bind Graph.order = .ok ids ↔
        (Graph.ofPlugins others).bind Graph.order = .ok ids) ∧
    ∀ e e' : Resolver σ, e.registry.Built → e.registry.connectors.Perm e'.registry.connectors →
      e.registry.definitions.Perm e'.registry.definitions → e.order = e'.order := by
  refine ⟨fun plugins => Graph.exists_ofPlugins_iff, ?_, ?_⟩
  · intro plugins others h ids
    exact ⟨h.order_eq_ok, h.symm.order_eq_ok⟩
  · intro e e' hbuilt hconnectors hdefinitions
    have hgraph : e.registry.graph = e'.registry.graph :=
      Registry.graph_eq_of_perm hbuilt.nodup hconnectors hdefinitions
    rw [order, order, Registry.order, Registry.order, hgraph]

/-- A name that is made of a mail address, in front of what both come from. -/
def listed : List (String × List String) :=
  [("name", ["mail", "directory"]), ("mail", ["directory", "nowhere", "directory"]),
    ("directory", [])]

/-- The plugins of `listed`, the other way around. -/
def relisted : List (String × List String) :=
  [("directory", []), ("mail", ["nowhere", "directory"]), ("name", ["directory", "mail"])]

theorem sameDependencies_listed : Graph.SameDependencies listed relisted where
  ids := by decide
  dependencies p hp q hq heq d := by
    have hsubset : ∀ p ∈ listed, ∀ q ∈ relisted, p.1 = q.1 → p.2 ⊆ q.2 ∧ q.2 ⊆ p.2 := by decide
    obtain ⟨hinto, hback⟩ := hsubset p hp q hq heq
    exact ⟨fun hd => hinto hd, fun hd => hback hd⟩

theorem order_determined_listed :
    Graph.SameDependencies listed relisted ∧
    (Graph.ofPlugins relisted).bind Graph.order = .ok ["directory", "mail", "name"] ∧
    Registry.tolerant.Built ∧
    Resolver.order ⟨"resolver", Registry.tolerantReversed⟩ =
      .ok ["backup", "secondary", "primary", "surname"] := by
  obtain ⟨-, hsame, hreordered⟩ := @order_determined Unit
  refine ⟨sameDependencies_listed, ?_, Registry.tolerant_built, ?_⟩
  · exact (hsame listed relisted sameDependencies_listed _).mp rfl
  · have heq := hreordered ⟨"resolver", Registry.tolerant⟩ ⟨"resolver", Registry.tolerantReversed⟩
      Registry.tolerant_built (List.reverse_perm _).symm (.refl _)
    rw [← heq]
    rfl

end Resolver

end AttributeRelease
