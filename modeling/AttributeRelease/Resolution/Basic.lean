import AttributeRelease.Graph.Basic
import AttributeRelease.Request
import AttributeRelease.Resolution.Error
import AttributeRelease.Resolution.Memo

/-!
# Resolutions

A resolution is what happens for one request: it has a memo of the results so far, and knows which
plugins are in progress. A plugin that is needed for its own result is a fault, and the ids in
progress then tell the way around.
-/

namespace AttributeRelease

/-- The state of a resolution. -/
structure Resolution where
  request : Request
  memo : Memo
  /-- The plugins in progress, the innermost first. -/
  inProgress : List String

namespace Resolution

variable {σ α β : Type}

/-- A resolution that has no results yet. -/
def start (request : Request) : Resolution := ⟨request, .empty, []⟩

/-- Puts a plugin in progress, which it may not be already. -/
def enter (x : Resolution) (id : String) : Except ResolutionError Resolution :=
  if x.inProgress.contains id then
    .error (.circularDependency (Graph.pathText (Graph.cycleFrom x.inProgress.reverse id)))
  else .ok { x with inProgress := id :: x.inProgress }

/-- Takes the innermost occurrence of a plugin out of progress. -/
def leave (x : Resolution) (id : String) : Resolution :=
  { x with inProgress := x.inProgress.erase id }

/-- Keeps the result of a plugin. -/
def record (x : Resolution) (id : String) (r : Resolved) : Resolution :=
  { x with memo := x.memo.put id r }

/-- A plugin can be put in progress unless it is already. -/
theorem enter_eq_ok_iff {x y : Resolution} {id : String} :
    x.enter id = .ok y ↔
      id ∉ x.inProgress ∧ y = { x with inProgress := id :: x.inProgress } := by
  by_cases h : id ∈ x.inProgress <;> simp [enter, h, eq_comm]

/-- Taking out undoes putting in. -/
theorem leave_enter {x y : Resolution} {id : String} (h : x.enter id = .ok y) :
    y.leave id = x := by
  obtain ⟨-, rfl⟩ := enter_eq_ok_iff.1 h
  simp [leave]

/-- The memo has the result. -/
theorem memo_record (x : Resolution) (id : String) (r : Resolved) :
    (x.record id r).memo = x.memo.put id r := rfl

/-- A step of a resolution. What it did to the resolution and to the world is done even when it
fails. -/
abbrev Step (σ α : Type) := Resolution → σ → Except ResolutionError α × Resolution × σ

/-- A step with a plugin in progress. -/
def during (id : String) (step : Step σ α) : Step σ α := fun x s =>
  match x.enter id with
  | .error e => (.error e, x, s)
  | .ok x =>
    match step x s with
    | (result, x, s) => (result, x.leave id, s)

/-- A step whose result does not count. -/
def discard (step : Step σ α) : Step σ Unit := fun x s =>
  match step x s with
  | (.error e, x, s) => (.error e, x, s)
  | (.ok _, x, s) => (.ok (), x, s)

/-- A step for every id, up to the first one that fails. -/
def each (step : String → Step σ α) : List String → Step σ (List (String × α))
  | [] => fun x s => (.ok [], x, s)
  | id :: rest => fun x s =>
    match step id x s with
    | (.error e, x, s) => (.error e, x, s)
    | (.ok a, x, s) =>
      match each step rest x s with
      | (.error e, x, s) => (.error e, x, s)
      | (.ok more, x, s) => (.ok ((id, a) :: more), x, s)

end Resolution

end AttributeRelease
