import AttributeRelease.Derivation
import AttributeRelease.Directory.Connector
import AttributeRelease.Document.Value
import AttributeRelease.Mapping.Basic
import AttributeRelease.Registry.Basic
import AttributeRelease.Sql.Connector
import AttributeRelease.Transient.Plugins

/-!
# Plugins in documents

How plugins are written: an object tells by `kind` what a plugin does, and names the directories,
databases, sealers and caches that it uses. What those names stand for depends on the site where the
plugins are put to use.
-/

namespace AttributeRelease

variable {κ σ : Type}

/-- What plugins find where they are put to use. -/
structure Site (κ σ : Type) where
  templates : Part σ Templates
  directory : String → Directory κ σ
  /-- Room for the connections of a new connector. -/
  newConnections : σ → Part σ (Connections κ) × σ
  database : String → Database σ
  cache : String → CacheAccess σ
  sealer : String → Sealer σ
  /-- Reads the time in nanoseconds. -/
  clock : σ → Nat × σ
  /-- Reads the date and time in milliseconds. -/
  date : σ → Int × σ

namespace Document

def pluginSettings (j : Json) : PluginSettings :=
  (j.member "deps").strs.foldl PluginSettings.dependsOn { id := j.textAt "id" }

def connectorSettings (j : Json) : ConnectorSettings := ⟨pluginSettings j, j.textAt? "failover"⟩

def definitionSettings (j : Json) : DefinitionSettings :=
  ⟨pluginSettings j, j.textAt? "source", j.flag "dependency_only" false⟩

/-! ## Connectors -/

def fixedConnector (j : Json) : Connector σ :=
  .fixed (connectorSettings j) ((j.list "attributes").foldl (fun (m : AttributeMap) (a : Json) =>
    match a with
    | .array [id, vs] => m.append id.str (values vs)
    | _ => m) [])

def poolSettings (j : Json) : PoolSettings := (PoolSettings.ofJson? j).getD {}

def directoryConnector (site : Site κ σ) (j : Json) (s : σ) :
    Except ResolutionError (Connector σ) × σ :=
  let directory := site.directory (j.textAt "directory")
  let (connections, s) := site.newConnections s
  let (now, s) := site.clock s
  match Connections.start directory ((j.given? "pool").map poolSettings) now s with
  | (.error e, s) => (.error e, s)
  | (.ok started, s) =>
    let search : DirectorySearch κ σ :=
      { settings := connectorSettings j
        templates := site.templates
        directory
        connections
        clock := site.clock
        returned := (j.member "return").strs
        emptyIsError := j.flag "no_results_is_error" false
        cache := (j.textAt? "cache").map site.cache }
    search.connector (j.textAt "template") (connections.set started s)

/-- Single options take the place of those among the settings. -/
def queryOptions (j : Json) : QuerySettings :=
  let settings := ((j.given? "settings").bind QuerySettings.ofJson?).getD {}
  { timeoutMillis := (j.member "query_timeout_ms").asNat?.or settings.timeoutMillis
    readOnly := j.flag "read_only" settings.readOnly
    storedProcedure := j.flag "stored_procedure" settings.storedProcedure }

def column? (j : Json) : Option Column :=
  match j.strs with
  | [name, id, type] => (ColumnType.named? type).map (Column.mk name id)
  | _ => none

def databaseConnector (site : Site κ σ) (j : Json) (s : σ) :
    Except ResolutionError (Connector σ) × σ :=
  let query : DatabaseQuery σ :=
    { settings := connectorSettings j
      templates := site.templates
      database := site.database (j.textAt "source")
      options := queryOptions j
      columns := (j.list "columns").filterMap column?
      emptyIsError := j.flag "no_result_is_error" false
      cache := (j.textAt? "cache").map site.cache }
  query.connector (j.textAt "template") s

/-! ## Definitions -/

def mappedDefinition (j : Json) : Except ResolutionError (Definition σ) :=
  let s := definitionSettings j
  let rules := (j.list "maps").filterMap MappingRule.ofJson?
  (Mapping.compile s.id rules (j.textAt? "default") (j.flag "pass_thru" false)).map (.mapped s)

def extractedDefinition (j : Json) : Except ResolutionError (Definition σ) :=
  let s := definitionSettings j
  (Definition.extraction s.id (j.textAt "pattern") (j.flag "ignore_case" false)).map (.extracted s)

def transientDefinition (site : Site κ σ) (j : Json) : Definition σ :=
  let default : TransientSettings := {}
  let lifetime := (j.member "lifetime_ms").asNat?.getD default.lifetimeMillis
  TransientIssue.definition
    { settings := definitionSettings j
      sealer := site.sealer (j.textAt "sealer")
      clock := site.date
      lifetime := .ofMillis lifetime }

/-! ## Principal connectors -/

def transientPrincipal (site : Site κ σ) (j : Json) : PrincipalConnector σ :=
  TransientRecognition.connector
    { settings := pluginSettings j
      format := j.textAt "format"
      relyingParties := (j.member "relying_parties").strs
      sealer := site.sealer (j.textAt "sealer") }

/-! ## Plugins of any sort -/

/-- Makes a plugin; a plugin of a kind that is unknown cannot be made. -/
def plugin (site : Site κ σ) (j : Json) (s : σ) : Except ResolutionError (Plugin σ) × σ :=
  let connector (made : Except ResolutionError (Connector σ) × σ) :=
    (made.1.map Plugin.connector, made.2)
  let definition (made : Except ResolutionError (Definition σ)) :=
    (made.map Plugin.definition, s)
  let settings := definitionSettings j
  match j.textAt "kind" with
  | "static" => connector (.ok (fixedConnector j), s)
  | "ldap" => connector (directoryConnector site j s)
  | "rdbms" => connector (databaseConnector site j s)
  | "simple" => definition (.ok (.copied settings))
  | "mapped" => definition (mappedDefinition j)
  | "regex_split" => definition (extractedDefinition j)
  | "prescoped" =>
    definition (.ok (.prescoped settings ((j.textAt? "delimiter").getD Scoped.delimiter)))
  | "name_id" =>
    definition (.ok (.named settings
      ⟨j.textAt? "format", j.textAt? "name_qualifier", j.textAt? "sp_name_qualifier"⟩))
  | "transient" => definition (.ok (transientDefinition site j))
  | "transient_principal" => (.ok (.principal (transientPrincipal site j)), s)
  | kind => (.error (.invalidConfiguration settings.id s!"unknown kind '{kind}'"), s)

/-- Makes plugins and adds them to a registry, up to the first one that fails. -/
def plugins (make : Json → σ → Except ResolutionError (Plugin σ) × σ) (r : Registry σ) :
    List Json → σ → Except ResolutionError (Registry σ) × σ
  | [], s => (.ok r, s)
  | j :: rest, s =>
    match make j s with
    | (.error e, s) => (.error e, s)
    | (.ok p, s) =>
      match r.add p with
      | .error e => (.error e, s)
      | .ok r => plugins make r rest s

end Document

end AttributeRelease
