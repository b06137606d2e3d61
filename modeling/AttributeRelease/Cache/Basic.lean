import AttributeRelease.Attribute
import AttributeRelease.Cipher.Blake3
import AttributeRelease.Duration
import AttributeRelease.Json.Record
import AttributeRelease.Part
import AttributeRelease.Resolution.Error
import AttributeRelease.Text.Utf8

/-!
# Result caches

A cache keeps the results of statements up to a number and an age. When it is full, results that
are too old make room for a new one, and if there are none the one that was put first does. A result
is known by a key, which is its statement or a digest of it. A cache can be shared; it is a part of
the world then.
-/

namespace AttributeRelease

/-! ## Settings -/

/-- How many results a cache keeps, and for how long. -/
structure CacheSettings where
  capacity : Nat := 500
  ttlSeconds : Nat := 14400
deriving DecidableEq, Repr

namespace CacheSettings

def ttl (s : CacheSettings) : Duration := .ofSeconds s.ttlSeconds

def toJson (s : CacheSettings) : Json :=
  .object [("capacity", .ofNat s.capacity), ("ttl_secs", .ofNat s.ttlSeconds)]

def ofJson? (j : Json) : Option CacheSettings :=
  match j.slots? ["capacity", "ttl_secs"] with
  | some [capacity, ttl] => do
    return ⟨← capacity.orElse? 500 Json.asNat?, ← ttl.orElse? 14400 Json.asNat?⟩
  | _ => none

end CacheSettings

/-! ## Caches -/

/-- A result and when it was put. -/
structure Cache.Entry (κ : Type) where
  key : κ
  result : AttributeMap
  putAt : Nat

/-- Results by their keys, in the order in which the keys were put first, and how often they were
asked for. Times are in nanoseconds. -/
structure Cache (κ : Type) where
  settings : CacheSettings
  entries : List (Cache.Entry κ)
  hits : Nat
  misses : Nat
  expirations : Nat

namespace Cache

variable {κ : Type} [DecidableEq κ]

def empty (settings : CacheSettings) : Cache κ := ⟨settings, [], 0, 0, 0⟩

/-- A result expires when it is older than the lifetime. -/
def Entry.expired (e : Entry κ) (ttl : Duration) (now : Nat) : Bool := ttl.nanos < now - e.putAt

def find? (c : Cache κ) (key : κ) : Option (Entry κ) := c.entries.find? fun e => e.key == key

def size (c : Cache κ) : Nat := c.entries.length

/-- The result with a key, unless it is missing or has expired. -/
def get (c : Cache κ) (now : Nat) (key : κ) : Option AttributeMap × Cache κ :=
  match c.find? key with
  | none => (none, { c with misses := c.misses + 1 })
  | some e =>
    if e.expired c.settings.ttl now then
      (none, { c with misses := c.misses + 1, expirations := c.expirations + 1 })
    else (some e.result, { c with hits := c.hits + 1 })

/-- The entry that was put first. -/
def oldest? : List (Entry κ) → Option (Entry κ)
  | [] => none
  | e :: rest =>
    match oldest? rest with
    | none => some e
    | some f => if e.putAt ≤ f.putAt then some e else some f

/-- Drops what has expired, and if that leaves the cache full, the entry that was put first. -/
def evict (settings : CacheSettings) (now : Nat) (entries : List (Entry κ)) : List (Entry κ) :=
  let kept := entries.filter fun e => !e.expired settings.ttl now
  if kept.length < settings.capacity then kept
  else
    match oldest? kept with
    | none => kept
    | some e => kept.filter fun f => f.key ≠ e.key

/-- Puts an entry in place of the one with its key, or else at the end. -/
def store (e : Entry κ) : List (Entry κ) → List (Entry κ)
  | [] => [e]
  | f :: rest => if f.key = e.key then e :: rest else f :: store e rest

/-- Keeps a result. -/
def put (c : Cache κ) (now : Nat) (key : κ) (result : AttributeMap) : Cache κ :=
  if c.settings.capacity = 0 then c
  else
    let full := (c.find? key).isNone && c.settings.capacity ≤ c.entries.length
    let entries := if full then evict c.settings now c.entries else c.entries
    { c with entries := store ⟨key, result, now⟩ entries }

/-- Forgets all results and counts. -/
def clear (c : Cache κ) : Cache κ := empty c.settings

/-- The key of 32 bytes that stands for a statement. -/
def digest (statement : String) : List UInt8 :=
  Cipher.Blake3.bytes (Cipher.Blake3.hash Cipher.Blake3.initial 0 (Text.encodeUtf8 statement))

/-- The share of questions that were answered, zero if there were none. -/
def hitRate (c : Cache κ) : Number.Binary64 :=
  let total := c.hits + c.misses
  if total = 0 then .zero false else .ofRatio false c.hits total

/-- No entry comes in but the new one. -/
theorem mem_store {e f : Entry κ} {entries : List (Entry κ)} (h : f ∈ store e entries) :
    f = e ∨ f ∈ entries := by
  induction entries with
  | nil => simpa [store] using h
  | cons g rest ih =>
    rw [store] at h
    split at h <;> grind

/-- A cache grows by one entry at most. -/
theorem length_store_le (e : Entry κ) (entries : List (Entry κ)) :
    (store e entries).length ≤ entries.length + 1 := by
  induction entries with
  | nil => simp [store]
  | cons g rest ih =>
    rw [store]
    split
    · exact Nat.le_succ _
    · exact Nat.succ_le_succ ih

/-- A cache with room for results has the one that was put last. -/
theorem find?_put_self (c : Cache κ) (now : Nat) (key : κ) (result : AttributeMap)
    (h : c.settings.capacity ≠ 0) :
    (c.put now key result).find? key = some ⟨key, result, now⟩ := by
  have store_self (entries : List (Entry κ)) :
      (store ⟨key, result, now⟩ entries).find? (fun e => e.key == key) =
        some ⟨key, result, now⟩ := by
    induction entries with
    | nil => simp [store]
    | cons g rest ih =>
      rw [store]
      split
      · simp
      · rename_i hg
        simpa [hg] using ih
  simp only [put, if_neg h, find?]
  exact store_self _

end Cache

/-! ## Answers from caches -/

/-- A cache in the world, which knows answers by their statements, and the clock that goes with
it. -/
structure CacheAccess (σ : Type) where
  cache : Part σ (Cache String)
  /-- Reads the time in nanoseconds. -/
  clock : σ → Nat × σ

namespace CacheAccess

variable {σ : Type}

/-- Looks for the answer to a statement in the cache. -/
def get (c : CacheAccess σ) (statement : String) (s : σ) : Option AttributeMap × σ :=
  let (now, s) := c.clock s
  let (found, cache) := (c.cache.get s).get now statement
  (found, c.cache.set cache s)

/-- Keeps the answer to a statement. -/
def put (c : CacheAccess σ) (statement : String) (answer : AttributeMap) (s : σ) : σ :=
  let (now, s) := c.clock s
  c.cache.set ((c.cache.get s).put now statement answer) s

/-- Answers a statement from the cache, or else asks and keeps the answer. A failure is not
kept. -/
def answer (c : CacheAccess σ) (ask : String → σ → Except ResolutionError AttributeMap × σ)
    (statement : String) (s : σ) : Except ResolutionError AttributeMap × σ :=
  match c.get statement s with
  | (some found, s) => (.ok found, s)
  | (none, s) =>
    match ask statement s with
    | (.error e, s) => (.error e, s)
    | (.ok fresh, s) => (.ok fresh, c.put statement fresh s)

end CacheAccess

end AttributeRelease
