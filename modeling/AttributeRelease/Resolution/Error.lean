import AttributeRelease.Value.Scoped

/-!
# Resolution errors

Why a resolution, or the setup of a resolver, fails.
-/

namespace AttributeRelease

/-- The part of a transient identifier that was issued for another party. -/
inductive TransientPart
  | nameQualifier
  | spNameQualifier
  | issuer
  | requester
deriving DecidableEq, Repr

def TransientPart.label : TransientPart → String
  | nameQualifier => "name qualifier"
  | spNameQualifier => "SP name qualifier"
  | issuer => "issuer"
  | requester => "requester"

/-- Why a resolution fails. -/
inductive ResolutionError
  /-- A data connector could not produce its attributes. -/
  | dataConnector (id message : String)
  /-- An attribute definition could not derive its attribute. -/
  | attributeDefinition (id message : String)
  /-- A principal connector could not find the principal. -/
  | principalConnector (id message : String)
  /-- The settings of a plugin cannot be used. -/
  | invalidConfiguration (id message : String)
  /-- A plugin depends on itself; the path leads from it back to it. -/
  | circularDependency (path : String)
  /-- Two plugins have one id. -/
  | duplicatePlugin (id : String)
  /-- There is no data connector with this id. -/
  | unknownDataConnector (id : String)
  /-- No principal connector takes this format from this party. -/
  | noPrincipalConnector (format relyingParty : String)
  /-- The request lacks something that is needed. -/
  | missingRequestData (what : String)
  /-- A query has no result, where that counts as a failure. -/
  | noResult (id : String)
  | expiredIdentifier
  /-- A transient identifier was issued for another party. -/
  | transientIdMismatch (part : TransientPart) (decoded expected : String)
  /-- A transient identifier does not have its three parts. -/
  | invalidToken (message : String)
  | sealing (message : String)
  | template (message : String)
  | directory (message : String)
  | database (message : String)
  | internal (message : String)
deriving DecidableEq, Repr

namespace ResolutionError

/-- The text of an error. -/
def message : ResolutionError → String
  | dataConnector id m => s!"Data connector '{id}' failed: {m}"
  | attributeDefinition id m => s!"Attribute definition '{id}' failed: {m}"
  | principalConnector id m => s!"Principal connector '{id}' failed: {m}"
  | invalidConfiguration id m => s!"Invalid configuration for '{id}': {m}"
  | circularDependency path => s!"Circular dependency detected: {path}"
  | duplicatePlugin id => s!"Duplicate plugin id: {id}"
  | unknownDataConnector id => s!"Unknown data connector: {id}"
  | noPrincipalConnector format relyingParty =>
    s!"No principal connector for format '{format}' and relying party '{relyingParty}'"
  | missingRequestData what => s!"Request is missing {what}"
  | noResult id => s!"No results returned by '{id}'"
  | expiredIdentifier => "Principal identifier has expired"
  | transientIdMismatch part decoded expected =>
    s!"Transient identifier {part.label} mismatch: " ++
      s!"token carries '{decoded}', request has '{expected}'"
  | invalidToken m => s!"Invalid transient identifier: {m}"
  | sealing m => s!"Sealing error: {m}"
  | template m => s!"Template error: {m}"
  | directory m => s!"Directory error: {m}"
  | database m => s!"Database error: {m}"
  | internal m => s!"Internal error: {m}"

/-- A text that is not scoped is no fault of a plugin. -/
def ofNotScoped (e : Scoped.NotScoped) : ResolutionError := .internal e.message

end ResolutionError

end AttributeRelease
