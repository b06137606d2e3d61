import AttributeRelease.Pool.Basic

/-!
# Connection strategies

Connections are pooled, or opened for every use and closed after it. A pool that is maintained runs
a validation pass after every period.
-/

namespace AttributeRelease

/-- Where connections come from. -/
inductive Connections (κ : Type)
  /-- Every use has a connection of its own. -/
  | unpooled
  | pooled (pool : Pool κ)

namespace Connections

variable {κ σ : Type}

/-- The strategy for the given settings; without settings connections are not pooled. -/
def start (d : Directory κ σ) (settings : Option PoolSettings) (now : Nat) (s : σ) :
    Except ResolutionError (Connections κ) × σ :=
  match settings with
  | none => (.ok .unpooled, s)
  | some settings =>
    match Pool.start d settings now s with
    | (.error e, s) => (.error e, s)
    | (.ok p, s) => (.ok (.pooled p), s)

def checkout (d : Directory κ σ) (c : Connections κ) (s : σ) :
    Except Pool.Failure (Pool.Lease κ) × Connections κ × σ :=
  match c with
  | .unpooled =>
    match d.create s with
    | (.error e, s) => (.error (.unopened e), .unpooled, s)
    | (.ok k, s) => (.ok ⟨k, false⟩, .unpooled, s)
  | .pooled p =>
    match p.checkout d s with
    | (r, p, s) => (r, .pooled p, s)

def checkin (d : Directory κ σ) (now : Nat) (l : Pool.Lease κ) (c : Connections κ) (s : σ) :
    Connections κ × σ :=
  match c with
  | .unpooled => (.unpooled, d.close l.connection s)
  | .pooled p =>
    match p.checkin d now l s with
    | (p, s) => (.pooled p, s)

end Connections

/-- The validation passes of a pool: one after every period from the start on. -/
structure Maintenance where
  start : Nat
  period : Duration

namespace Maintenance

/-- How many passes there are until a time. -/
def passesUntil (m : Maintenance) (time : Nat) : Nat := (time - m.start) / m.period.nanos

/-- How many passes there are after one time and until another. -/
def passes (m : Maintenance) (before after : Nat) : Nat :=
  m.passesUntil after - m.passesUntil before

end Maintenance

end AttributeRelease
