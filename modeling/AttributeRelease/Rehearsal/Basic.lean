import AttributeRelease.Document.Plugin
import AttributeRelease.Document.Policy
import AttributeRelease.Rehearsal.Database
import AttributeRelease.Rehearsal.Directory
import AttributeRelease.Rehearsal.Sealer

/-!
# Rehearsals

A rehearsal is a world in which plugins and policies are tried out before they are put to use. Its
directories, databases and sealers are written down in a document, its time stands still but for the
order of events, and it keeps a log of what was asked of whom.
-/

namespace AttributeRelease

/-- The state of a rehearsal. -/
structure Rehearsal where
  /-- What was asked, the latest first. -/
  log : List String
  templates : Templates
  caches : String → Cache String
  directories : String → WrittenDirectory
  databases : String → WrittenDatabase
  /-- Connections of connectors, by number. -/
  connections : Nat → Connections Nat
  /-- How often scripted plugins were asked, by number. -/
  calls : Nat → Nat
  /-- How many numbers were given out. -/
  numbers : Nat
  /-- How many events there were. -/
  ticks : Nat

namespace Rehearsal

/-- The date of every rehearsal, in milliseconds. -/
def today : Int := 1750000000000

/-! ## Parts -/

def templatesPart : Part Rehearsal Templates where
  get := templates
  set t r := { r with templates := t }

def cachesPart : Part Rehearsal (String → Cache String) where
  get := caches
  set c r := { r with caches := c }

def directoriesPart : Part Rehearsal (String → WrittenDirectory) where
  get := directories
  set d r := { r with directories := d }

def databasesPart : Part Rehearsal (String → WrittenDatabase) where
  get := databases
  set d r := { r with databases := d }

def connectionsPart : Part Rehearsal (Nat → Connections Nat) where
  get := connections
  set c r := { r with connections := c }

def callsPart : Part Rehearsal (Nat → Nat) where
  get := calls
  set c r := { r with calls := c }

def cache (name : String) : Part Rehearsal (Cache String) := cachesPart.comp (.entry name)

def directory (name : String) : Part Rehearsal WrittenDirectory :=
  directoriesPart.comp (.entry name)

def database (name : String) : Part Rehearsal WrittenDatabase := databasesPart.comp (.entry name)

/-! ## Events -/

def note (line : String) (r : Rehearsal) : Rehearsal := { r with log := line :: r.log }

/-- Reads the time; no two readings are the same. -/
def clock (r : Rehearsal) : Nat × Rehearsal := (r.ticks + 1, { r with ticks := r.ticks + 1 })

def date (r : Rehearsal) : Int × Rehearsal := (today, r)

/-- A number that was not given out before. -/
def number (r : Rehearsal) : Nat × Rehearsal := (r.numbers + 1, { r with numbers := r.numbers + 1 })

/-- A nonce that was not used before. -/
def nonce (r : Rehearsal) : Nonce × Rehearsal := (.ofNat r.number.1, r.number.2)

/-! ## Documents -/

/-- Reads what has names in a document; whatever has no name there is missing. -/
def named {α : Type} (j : Json) (read : Json → α) (missing : α) : String → α :=
  let known := j.members.map fun (name, j) => (name, read j)
  fun name => (known.lookup name).getD missing

/-- A rehearsal in which nothing has happened. -/
def ofDocument (j : Json) : Rehearsal where
  log := []
  templates := .empty
  caches := named (j.member "caches") (fun c => .empty ((CacheSettings.ofJson? c).getD {}))
    (.empty {})
  directories := named (j.member "directories") WrittenDirectory.ofDocument {}
  databases := named (j.member "sources") WrittenDatabase.ofDocument {}
  connections _ := .unpooled
  calls _ := 0
  numbers := 0
  ticks := 0

/-- The keys of the sealers that have one. -/
def keys (j : Json) : List (String × SealingKey) :=
  (j.member "sealers").members.filterMap fun (name, s) =>
    (s.textAt? "aes").map fun secret => (name, SealingKey.ofSecret (Text.encodeUtf8 secret))

/-- The sealer with a name. -/
def sealer (j : Json) (keys : List (String × SealingKey)) (name : String) : Sealer Rehearsal :=
  match keys.lookup name with
  | some key => key.sealer nonce date
  | none => (OpenSealer.ofDocument ((j.member "sealers").member name)).sealer date note

/-- What plugins find in a rehearsal. -/
def site (j : Json) (keys : List (String × SealingKey)) : Site Nat Rehearsal where
  templates := templatesPart
  directory name := WrittenDirectory.directory (directory name) note
  newConnections r :=
    let (n, r) := r.number
    (connectionsPart.comp (.entry n), r)
  database name :=
    let supported := ((j.member "sources").member name)
    WrittenDatabase.database (database name) (WrittenDatabase.ofDocument supported).storedProcedures
      note
  cache name := ⟨cache name, clock⟩
  sealer := sealer j keys
  clock := clock
  date := date

/-! ## Scripted plugins -/

/-- Fails as a document says, always or the first few times, and otherwise has a result. -/
def scripted {α : Type} (n : Nat) (j : Json) (fault : String → ResolutionError) (result : α)
    (r : Rehearsal) : Except ResolutionError α × Rehearsal :=
  let r := r.note ("resolve:" ++ j.textAt "id")
  let calls := r.calls n
  let r := (callsPart.comp (.entry n)).set (calls + 1) r
  match j.textAt? "fail", (j.member "fail_times").asNat? with
  | none, _ => (.ok result, r)
  | some e, none => (.error (fault e), r)
  | some e, some times => (if calls < times then .error (fault e) else .ok result, r)

/-- A scripted plugin can be used unless the document says why not. -/
def scriptedCheck (j : Json) (r : Rehearsal) : Except ResolutionError Unit × Rehearsal :=
  match j.textAt? "invalid" with
  | some e => (.error (.invalidConfiguration (j.textAt "id") e), r)
  | none => (.ok (), r)

def scriptedConnector (n : Nat) (j : Json) : Connector Rehearsal :=
  let s := Document.connectorSettings j
  let result := Document.attributePairs (j.member "attributes")
  { id := s.plugin.id
    dependencies := s.plugin.dependencies
    failover := s.failover
    resolve := fun _ _ => scripted n j (.dataConnector s.plugin.id) result
    check := scriptedCheck j }

def scriptedDefinition (n : Nat) (j : Json) : Definition Rehearsal :=
  let s := Document.definitionSettings j
  let result := ((Document.attributePairs (j.member "attributes")).get? s.id).getD (.empty s.id)
  { id := s.id
    dependencies := s.plugin.dependencies
    dependencyOnly := s.dependencyOnly
    resolve := fun _ _ => scripted n j (.attributeDefinition s.id) result
    check := scriptedCheck j }

def scriptedPrincipal (n : Nat) (j : Json) : PrincipalConnector Rehearsal :=
  let s := Document.pluginSettings j
  { id := s.id
    dependencies := s.dependencies
    format := j.textAt "format"
    relyingParties := (j.member "relying_parties").strs
    resolve := fun _ _ => scripted n j (.principalConnector s.id) (j.textAt "principal")
    check := scriptedCheck j }

/-- A scripted plugin, or one that is put to use at the site. -/
def plugin (site : Site Nat Rehearsal) (j : Json) (r : Rehearsal) :
    Except ResolutionError (Plugin Rehearsal) × Rehearsal :=
  let (n, scripted) := r.number
  match j.textAt "kind" with
  | "scripted" => (.ok (.connector (scriptedConnector n j)), scripted)
  | "scripted_def" => (.ok (.definition (scriptedDefinition n j)), scripted)
  | "principal" => (.ok (.principal (scriptedPrincipal n j)), scripted)
  | _ => Document.plugin site j r

end Rehearsal

end AttributeRelease
