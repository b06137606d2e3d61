import AttributeRelease.Pattern.Basic
import AttributeRelease.Plugin.Basic

/-!
# Derived attributes

Definitions that make other values of the values of their dependencies. A pattern picks a part of
every value; or values are given the domain in which they hold: the scope that their text names, or
the qualifiers of a name identifier.
-/

namespace AttributeRelease

/-- What the first group matches where the pattern first matches in a text. -/
def Pattern.extract? (p : Pattern) (text : String) : Option String :=
  ((p.findIn? text).bind (·.group? 1)).map String.ofList

namespace Definition

variable {σ : Type}

/-! ## Extracted parts -/

/-- A pattern that has a group. -/
def extraction (id source : String) (ignoreCase : Bool) : Except ResolutionError Pattern :=
  let flags : Pattern.Flags := { ignoreCase }
  match Pattern.ofText flags source with
  | .error e => .error (.invalidConfiguration id s!"invalid regex: {e.message}")
  | .ok p =>
    if p.groups = 0 then .error (.invalidConfiguration id "regex must contain a capture group")
    else .ok p

/-- A definition with what a pattern extracts from the values of its dependencies. -/
def extracted (settings : DefinitionSettings) (p : Pattern) : Definition σ :=
  derived settings (.ok ()) fun _ values =>
    .ok (values.filterMap fun v => (p.extract? v.text).map .string)

/-! ## Scoped values -/

/-- The scoped values of texts; all of them must be scoped. -/
def scopedValues (id delimiter : String) (values : List Value) :
    Except ResolutionError (List Value) :=
  values.mapM fun v =>
    match Scoped.parse v.text delimiter with
    | .error e => .error (.attributeDefinition id e.message)
    | .ok parsed => .ok (.scoped parsed)

/-- A delimiter is not empty. -/
def checkDelimiter (id delimiter : String) : Except ResolutionError Unit :=
  if delimiter = "" then .error (.invalidConfiguration id "scope delimiter must not be empty")
  else .ok ()

/-- A definition with the values of its dependencies, split at a delimiter. -/
def prescoped (settings : DefinitionSettings) (delimiter : String) : Definition σ :=
  derived settings (checkDelimiter settings.id delimiter) fun _ =>
    scopedValues settings.id delimiter

/-! ## Name identifiers -/

/-- The format and the qualifiers of name identifiers, as far as they are given. -/
structure Naming where
  format : Option String := none
  nameQualifier : Option String := none
  spNameQualifier : Option String := none
deriving DecidableEq

/-- The name identifier of a value. A name is qualified by the local entity and for the requester
unless something else is given. -/
def Naming.identifier (n : Naming) (r : Request) (value : String) : NameIdentifier where
  value := value
  format := n.format
  nameQualifier := n.nameQualifier.or r.localEntityId
  spNameQualifier := n.spNameQualifier.or r.requester

/-- A definition with name identifiers for the values of its dependencies; blank values are passed
over. -/
def named (settings : DefinitionSettings) (n : Naming) : Definition σ :=
  derived settings (.ok ()) fun r values =>
    .ok ((values.filter fun v => !v.isBlank).map fun v => .nameId (n.identifier r v.text))

end Definition

end AttributeRelease
