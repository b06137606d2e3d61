/-!
# Parts of the world

Templates, caches and pools are shared: several plugins use one of them, and each use may change it.
They are kept in the world `σ` that every operation is given and gives back. A part says where.
-/

namespace AttributeRelease

/-- A part of the world that can be looked at and replaced. -/
structure Part (σ α : Type) where
  get : σ → α
  set : α → σ → σ
  /-- What was put is there. -/
  get_set : ∀ a s, get (set a s) = a := by intros; rfl
  /-- To put what is there changes nothing. -/
  set_get : ∀ s, set (get s) s = s := by intros; rfl
  /-- What is put last counts. -/
  set_set : ∀ a b s, set a (set b s) = set a s := by intros; rfl

namespace Part

variable {σ α β κ : Type}

/-- The world as a part of itself. -/
def whole : Part α α where
  get s := s
  set a _ := a

/-- A part of a part. -/
def comp (outer : Part σ α) (inner : Part α β) : Part σ β where
  get s := inner.get (outer.get s)
  set b s := outer.set (inner.set b (outer.get s)) s
  get_set b s := by rw [outer.get_set, inner.get_set]
  set_get s := by rw [inner.set_get, outer.set_get]
  set_set a b s := by rw [outer.get_set, inner.set_set, outer.set_set]

/-- One of many things that are known by keys. -/
def entry [DecidableEq κ] (key : κ) : Part (κ → α) α where
  get f := f key
  set a f := fun k => if k = key then a else f k
  get_set := by simp
  set_get f := by funext k; split <;> simp_all
  set_set a b f := by funext k; split <;> simp_all

end Part

end AttributeRelease
