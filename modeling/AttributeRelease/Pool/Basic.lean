import AttributeRelease.Directory.Basic
import AttributeRelease.Duration
import AttributeRelease.Json.Record

/-!
# Connection pools

A pool hands out connections and keeps those that come back. Every connection that is handed out
within the pool's size takes a slot. When no slot is left, a checkout waits, or it gets a connection
beyond the size that is closed when it comes back. Times are in nanoseconds.
-/

namespace AttributeRelease

/-! ## Settings -/

/-- The bounds of a connection pool. -/
structure PoolSettings where
  /-- How many connections are opened when the pool starts. -/
  minSize : Nat := 0
  /-- How many connections are handed out before a checkout waits or overflows. -/
  maxSize : Nat := 10
  /-- Whether a checkout from an exhausted pool waits; otherwise it overflows. -/
  blockWhenEmpty : Bool := true
  /-- How long a checkout waits, in milliseconds; without a limit if there is none. -/
  blockWaitMillis : Option Nat := none
  validatePeriodSeconds : Nat := 1800
  idleSeconds : Nat := 600
deriving DecidableEq, Repr

namespace PoolSettings

def blockWait? (s : PoolSettings) : Option Duration := s.blockWaitMillis.map .ofMillis

/-- Validation passes are at least one second apart. -/
def validatePeriod (s : PoolSettings) : Duration := .ofSeconds (max s.validatePeriodSeconds 1)

def idleTime (s : PoolSettings) : Duration := .ofSeconds s.idleSeconds

/-- A number, or null where there is none. -/
def numberOrNull (n : Option Nat) : Json :=
  match n with
  | none => .null
  | some n => .ofNat n

def toJson (s : PoolSettings) : Json :=
  .object [("min_pool_size", .ofNat s.minSize), ("max_pool_size", .ofNat s.maxSize),
    ("block_when_empty", .bool s.blockWhenEmpty),
    ("block_wait_time_ms", numberOrNull s.blockWaitMillis),
    ("validate_period_secs", .ofNat s.validatePeriodSeconds),
    ("idle_time_secs", .ofNat s.idleSeconds)]

def fieldNames : List String :=
  ["min_pool_size", "max_pool_size", "block_when_empty", "block_wait_time_ms",
    "validate_period_secs", "idle_time_secs"]

def ofJson? (j : Json) : Option PoolSettings :=
  match j.slots? fieldNames with
  | some [minSize, maxSize, block, wait, period, idle] => do
    return ⟨← minSize.orElse? 0 Json.asNat?, ← maxSize.orElse? 10 Json.asNat?,
      ← block.orElse? true Json.asBool?, ← wait.orElse? none (Json.asOption? Json.asNat?),
      ← period.orElse? 1800 Json.asNat?, ← idle.orElse? 600 Json.asNat?⟩
  | _ => none

end PoolSettings

/-! ## Pools -/

/-- A connection that waits to be handed out again. -/
structure Pool.Idle (κ : Type) where
  connection : κ
  since : Nat

/-- A connection that is handed out, and whether it has taken a slot. -/
structure Pool.Lease (κ : Type) where
  connection : κ
  slot : Bool

/-- The connections that wait, the first to be handed out first, and the slots that are left. -/
structure Pool (κ : Type) where
  settings : PoolSettings
  idle : List (Pool.Idle κ)
  slots : Nat

namespace Pool

variable {κ σ : Type}

/-- Why a checkout fails. -/
inductive Failure
  /-- No slot became free in time. -/
  | exhausted (waited : Duration)
  /-- No slot is free, and there is no limit to the wait for one. -/
  | waiting
  /-- No connection could be opened. -/
  | unopened (cause : ResolutionError)
deriving DecidableEq

/-- The error of a resolution that fails for this reason. -/
def Failure.toResolution : Failure → ResolutionError
  | exhausted waited => .directory s!"no pooled connection available after {waited.debug}"
  | waiting => .directory "no pooled connection available"
  | unopened cause => cause

/-- What a checkout may take. -/
inductive Claim
  | slot
  /-- A connection beyond the pool's size. -/
  | overflow
  | nothing (reason : Failure)

/-- What a checkout may take from a pool. -/
def claim (p : Pool κ) : Claim :=
  if 0 < p.slots then .slot
  else if !p.settings.blockWhenEmpty then .overflow
  else
    match p.settings.blockWait? with
    | some wait => .nothing (.exhausted wait)
    | none => .nothing .waiting

/-- Hands out a connection: with a slot the one that waits longest, else a new one. -/
def checkout (d : Directory κ σ) (p : Pool κ) (s : σ) :
    Except Failure (Lease κ) × Pool κ × σ :=
  match p.claim with
  | .nothing reason => (.error reason, p, s)
  | .overflow =>
    match d.create s with
    | (.error e, s) => (.error (.unopened e), p, s)
    | (.ok c, s) => (.ok ⟨c, false⟩, p, s)
  | .slot =>
    match p.idle with
    | i :: rest => (.ok ⟨i.connection, true⟩, { p with idle := rest, slots := p.slots - 1 }, s)
    | [] =>
      match d.create s with
      | (.error e, s) => (.error (.unopened e), p, s)
      | (.ok c, s) => (.ok ⟨c, true⟩, { p with slots := p.slots - 1 }, s)

/-- Takes a connection back; one beyond the pool's size is closed. -/
def checkin (d : Directory κ σ) (now : Nat) (l : Lease κ) (p : Pool κ) (s : σ) : Pool κ × σ :=
  if l.slot then ({ p with idle := p.idle ++ [⟨l.connection, now⟩], slots := p.slots + 1 }, s)
  else (p, d.close l.connection s)

/-- Gives the slot of a connection back that is not returned. -/
def forget (l : Lease κ) (p : Pool κ) : Pool κ :=
  if l.slot then { p with slots := p.slots + 1 } else p

/-! ## Validation

A validation pass takes all waiting connections out of the pool, looks at one after the other, and
puts those back that are kept. -/

/-- Takes all waiting connections out. -/
def drain (p : Pool κ) : List (Idle κ) × Pool κ := (p.idle, { p with idle := [] })

/-- Closes a connection that has waited too long or is no longer valid; tells whether it is kept. -/
def inspect (d : Directory κ σ) (limit : Duration) (now : Nat) (i : Idle κ) (s : σ) : Bool × σ :=
  if limit.nanos < now - i.since then (false, d.close i.connection s)
  else
    match d.isValid i.connection s with
    | (true, s) => (true, s)
    | (false, s) => (false, d.close i.connection s)

/-- Looks at connections in order; the answer is those that are kept. -/
def inspectAll (d : Directory κ σ) (limit : Duration) (now : Nat) :
    List (Idle κ) → σ → List (Idle κ) × σ
  | [], s => ([], s)
  | i :: rest, s =>
    let (keep, s) := inspect d limit now i s
    let (kept, s) := inspectAll d limit now rest s
    (if keep then i :: kept else kept, s)

/-- Puts connections back behind those that wait. -/
def restore (kept : List (Idle κ)) (p : Pool κ) : Pool κ := { p with idle := p.idle ++ kept }

/-- A validation pass that nothing comes between. -/
def validateIdle (d : Directory κ σ) (now : Nat) (p : Pool κ) (s : σ) : Pool κ × σ :=
  let (candidates, p) := p.drain
  let (kept, s) := inspectAll d p.settings.idleTime now candidates s
  (p.restore kept, s)

/-- Opens a number of connections. -/
def openIdle (d : Directory κ σ) (now : Nat) :
    Nat → σ → Except ResolutionError (List (Idle κ)) × σ
  | 0, s => (.ok [], s)
  | n + 1, s =>
    match d.create s with
    | (.error e, s) => (.error e, s)
    | (.ok c, s) =>
      match openIdle d now n s with
      | (.error e, s) => (.error e, s)
      | (.ok rest, s) => (.ok (⟨c, now⟩ :: rest), s)

/-- A new pool, with its least number of connections but no more than its size. -/
def start (d : Directory κ σ) (settings : PoolSettings) (now : Nat) (s : σ) :
    Except ResolutionError (Pool κ) × σ :=
  match openIdle d now (min settings.minSize settings.maxSize) s with
  | (.error e, s) => (.error e, s)
  | (.ok idle, s) => (.ok ⟨settings, idle, settings.maxSize⟩, s)

/-- A slot is taken exactly when one is left. -/
theorem claim_eq_slot_iff {p : Pool κ} : p.claim = .slot ↔ 0 < p.slots := by
  rw [claim]
  split
  · simp_all
  · split
    · simp_all
    · split <;> simp_all

end Pool

end AttributeRelease
