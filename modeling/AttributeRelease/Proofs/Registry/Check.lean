import AttributeRelease.Registry.Check
import Mathlib.Data.List.Basic

/-!
# What checks leave alone

A check of a registry does to the world what the checks of its plugins do to it, so whatever they
leave alone is left alone.
-/

namespace AttributeRelease

variable {σ β : Type}

namespace Registry

theorem checkEach_keeps {α : Type} {view : σ → β}
    {check : α → σ → Except ResolutionError Unit × σ} {items : List α}
    (h : ∀ a ∈ items, ∀ s, view (check a s).2 = view s) (s : σ) :
    view (checkEach check items s).2 = view s := by
  induction items generalizing s with
  | nil => rfl
  | cons a rest ih =>
      have hfirst := h a List.mem_cons_self s
      rw [checkEach]
      rcases hcheck : check a s with ⟨result, s'⟩
      rw [hcheck] at hfirst
      cases result with
      | error e => exact hfirst
      | ok _ => exact (ih (fun b hb => h b (List.mem_cons_of_mem a hb)) s').trans hfirst

theorem checkChain_keeps {view : σ → β} {r : Registry σ}
    (h : ∀ c ∈ r.connectors, ∀ s, view (c.check s).2 = view s) (start : String) (room : Nat)
    (tried : List String) {c : Connector σ} (hc : c ∈ r.connectors) (s : σ) :
    view (r.checkChain start room tried c s).2 = view s := by
  induction room generalizing tried c s with
  | zero => rfl
  | succ room ih =>
      have hown := h c hc s
      rw [checkChain]
      rcases hcheck : c.check s with ⟨result, s'⟩
      rw [hcheck] at hown
      cases result with
      | ok _ => exact hown
      | error e =>
          cases c.failover with
          | none => exact hown
          | some other =>
              dsimp only
              split
              · exact hown
              · cases hother : r.connector? other with
                | none => exact hown
                | some d =>
                    have hd : d ∈ r.connectors := List.mem_of_find?_eq_some hother
                    exact (ih (other :: tried) hd s').trans hown

theorem checkPlugins_keeps {view : σ → β} {r : Registry σ}
    (hconnectors : ∀ c ∈ r.connectors, ∀ s, view (c.check s).2 = view s)
    (hdefinitions : ∀ d ∈ r.definitions, ∀ s, view (d.check s).2 = view s)
    (hprincipals : ∀ p ∈ r.principals, ∀ s, view (p.check s).2 = view s) (s : σ) :
    view (r.checkPlugins s).2 = view s := by
  have hchain : view (checkEach (fun c => r.checkChain c.id r.connectors.length [c.id] c)
      r.connectors s).2 = view s :=
    checkEach_keeps (fun c hc => checkChain_keeps hconnectors c.id _ [c.id] hc) s
  rw [checkPlugins]
  rcases hfirst : checkEach (fun c => r.checkChain c.id r.connectors.length [c.id] c)
    r.connectors s with ⟨result, s'⟩
  rw [hfirst] at hchain
  simp only [hfirst]
  cases result with
  | error e => exact hchain
  | ok _ =>
      have hsecond := checkEach_keeps hdefinitions s'
      rcases hcheck : checkEach Definition.check r.definitions s' with ⟨result, s''⟩
      rw [hcheck] at hsecond
      simp only [hcheck]
      cases result with
      | error e => exact hsecond.trans hchain
      | ok _ => exact (checkEach_keeps hprincipals s'').trans (hsecond.trans hchain)

theorem check_keeps {view : σ → β} {r : Registry σ}
    (hconnectors : ∀ c ∈ r.connectors, ∀ s, view (c.check s).2 = view s)
    (hdefinitions : ∀ d ∈ r.definitions, ∀ s, view (d.check s).2 = view s)
    (hprincipals : ∀ p ∈ r.principals, ∀ s, view (p.check s).2 = view s) (s : σ) :
    view (r.check s).2 = view s := by
  rw [check]
  split
  · rfl
  · exact checkPlugins_keeps hconnectors hdefinitions hprincipals s

end Registry

end AttributeRelease
