import AttributeRelease.Json.Record

/-!
# Settings of plugins

Identity, dependencies and the options that all connectors, or all definitions, share. Their JSON
form is one flat object; the settings common to all plugins stand among the others.
-/

namespace AttributeRelease

/-- Identity and dependencies of a plugin. -/
structure PluginSettings where
  id : String
  dependencies : List String := []
deriving DecidableEq

namespace PluginSettings

/-- Adds a dependency; a repeated one is left out. -/
def dependsOn (s : PluginSettings) (id : String) : PluginSettings :=
  if s.dependencies.contains id then s else { s with dependencies := s.dependencies ++ [id] }

def members (s : PluginSettings) : List (String × Json) :=
  [("id", .string s.id), ("dependency_ids", .ofStrings s.dependencies)]

def toJson (s : PluginSettings) : Json := .object s.members

def ofSlots? : List Json.Slot → Option PluginSettings
  | [id, dependencies] => do
    return ⟨← id.required? Json.asString?, ← dependencies.orElse? [] (Json.asArray? Json.asString?)⟩
  | _ => none

def fieldNames : List String := ["id", "dependency_ids"]

def ofJson? (j : Json) : Option PluginSettings := (j.slots? fieldNames).bind ofSlots?

/-- Reads the settings from an object that has others too, of which `own` are the names. -/
def ofMembers? (own : List String) (members : List (String × Json)) : Option PluginSettings :=
  if members.all fun m => own.contains m.1 || m.2.canKeep 1 then
    (Json.memberSlots? fieldNames members).bind ofSlots?
  else none

end PluginSettings

/-- Settings of a data connector. -/
structure ConnectorSettings where
  plugin : PluginSettings
  /-- The connector that is asked when this one fails. -/
  failover : Option String := none
deriving DecidableEq

namespace ConnectorSettings

def toJson (s : ConnectorSettings) : Json :=
  .object (s.plugin.members ++ [("failover_dependency_id", .ofOption s.failover)])

def ofJson? : Json → Option ConnectorSettings
  | .object members => do
    let plugin ← PluginSettings.ofMembers? ["failover_dependency_id"] members
    let failover ← Json.slot? members "failover_dependency_id"
    return ⟨plugin, ← failover.optional? Json.asString?⟩
  | _ => none

end ConnectorSettings

/-- Settings of an attribute definition. -/
structure DefinitionSettings where
  plugin : PluginSettings
  /-- The attribute that is read from connectors. -/
  source : Option String := none
  /-- The attribute feeds other plugins only and is never released. -/
  dependencyOnly : Bool := false
deriving DecidableEq

namespace DefinitionSettings

def id (s : DefinitionSettings) : String := s.plugin.id

/-- The attribute read from connectors is the definition's own unless another one is named. -/
def sourceId (s : DefinitionSettings) : String := s.source.getD s.plugin.id

def toJson (s : DefinitionSettings) : Json :=
  .object (s.plugin.members ++
    [("source_attribute_id", .ofOption s.source), ("dependency_only", .bool s.dependencyOnly)])

def ofJson? : Json → Option DefinitionSettings
  | .object members => do
    let plugin ← PluginSettings.ofMembers? ["source_attribute_id", "dependency_only"] members
    let source ← Json.slot? members "source_attribute_id"
    let only ← Json.slot? members "dependency_only"
    return ⟨plugin, ← source.optional? Json.asString?, ← only.orElse? false Json.asBool?⟩
  | _ => none

end DefinitionSettings

end AttributeRelease
