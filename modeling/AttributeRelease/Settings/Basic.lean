import AttributeRelease.Cache.Basic
import AttributeRelease.Pool.Basic

/-!
# Settings

The settings that connectors and transient identifiers share, with the conditions that they have to
meet.
-/

namespace AttributeRelease

/-- How queries are run. -/
structure QuerySettings where
  /-- The time limit of a query in milliseconds, if there is one. -/
  timeoutMillis : Option Nat := none
  readOnly : Bool := true
  storedProcedure : Bool := false
deriving DecidableEq, Repr

namespace QuerySettings

def timeout? (s : QuerySettings) : Option Duration := s.timeoutMillis.map .ofMillis

def toJson (s : QuerySettings) : Json :=
  .object [("query_timeout_ms", PoolSettings.numberOrNull s.timeoutMillis),
    ("read_only_connection", .bool s.readOnly), ("uses_stored_procedure", .bool s.storedProcedure)]

def ofJson? (j : Json) : Option QuerySettings :=
  match j.slots? ["query_timeout_ms", "read_only_connection", "uses_stored_procedure"] with
  | some [timeout, readOnly, storedProcedure] => do
    return ⟨← timeout.orElse? none (Json.asOption? Json.asNat?),
      ← readOnly.orElse? true Json.asBool?, ← storedProcedure.orElse? false Json.asBool?⟩
  | _ => none

end QuerySettings

/-- How long transient identifiers live. -/
structure TransientSettings where
  lifetimeMillis : Nat := 14400000
deriving DecidableEq, Repr

namespace TransientSettings

def lifetime (s : TransientSettings) : Duration := .ofMillis s.lifetimeMillis

def toJson (s : TransientSettings) : Json := .object [("lifetime_ms", .ofNat s.lifetimeMillis)]

def ofJson? (j : Json) : Option TransientSettings :=
  match j.slots? ["lifetime_ms"] with
  | some [lifetime] => do return ⟨← lifetime.orElse? 14400000 Json.asNat?⟩
  | _ => none

end TransientSettings

/-- How many connections to a database server are kept, and for how long, in seconds. -/
structure ServerPoolSettings where
  maxConnections : Nat := 25
  minConnections : Nat := 5
  acquireSeconds : Nat := 3
  idleSeconds : Nat := 600
  lifetimeSeconds : Nat := 1800
deriving DecidableEq, Repr

/-- All shared settings. -/
structure Settings where
  cache : CacheSettings := {}
  pool : PoolSettings := {}
  query : QuerySettings := {}
  transient : TransientSettings := {}
deriving DecidableEq, Repr

/-- The version of the library. -/
def version : String := "0.1.0"

/-- Why settings are refused. -/
inductive SettingsError
  /-- The text cannot be obtained. -/
  | unreadable
  /-- The text does not hold settings. -/
  | malformed
  | poolWithoutConnections
  | poolMinimumAboveMaximum
  | cacheWithoutLifetime
  | identifiersWithoutLifetime
deriving DecidableEq, Repr

def SettingsError.message : SettingsError → String
  | unreadable => "Failed to read configuration file"
  | malformed => "Failed to parse configuration file"
  | poolWithoutConnections => "LDAP pool max_pool_size must be at least 1"
  | poolMinimumAboveMaximum => "LDAP pool min_pool_size cannot exceed max_pool_size"
  | cacheWithoutLifetime => "Cache ttl_secs must be positive when caching is enabled"
  | identifiersWithoutLifetime => "Transient identifier lifetime must be positive"

namespace Settings

def toJson (s : Settings) : Json :=
  .object [("cache", s.cache.toJson), ("ldap_pool", s.pool.toJson), ("rdbms", s.query.toJson),
    ("transient_id", s.transient.toJson)]

def ofJson? (j : Json) : Option Settings :=
  match j.slots? ["cache", "ldap_pool", "rdbms", "transient_id"] with
  | some [cache, pool, query, transient] => do
    return ⟨← cache.orElse? {} CacheSettings.ofJson?, ← pool.orElse? {} PoolSettings.ofJson?,
      ← query.orElse? {} QuerySettings.ofJson?, ← transient.orElse? {} TransientSettings.ofJson?⟩
  | _ => none

/-- The first condition that settings do not meet. -/
def fault? (s : Settings) : Option SettingsError :=
  if s.pool.maxSize = 0 then some .poolWithoutConnections
  else if s.pool.maxSize < s.pool.minSize then some .poolMinimumAboveMaximum
  else if 0 < s.cache.capacity ∧ s.cache.ttlSeconds = 0 then some .cacheWithoutLifetime
  else if s.transient.lifetimeMillis = 0 then some .identifiersWithoutLifetime
  else none

/-- Settings that meet all conditions. -/
def validate (s : Settings) : Except SettingsError Settings :=
  match s.fault? with
  | some e => .error e
  | none => .ok s

end Settings

end AttributeRelease
