import AttributeRelease.Json.Parser
import AttributeRelease.Json.Record
import AttributeRelease.Text.Blank

/-!
# Requests

What is known about a request for attributes: the principal, the relying party that asks, the
provider that answers, the subject identifier that was presented, the attributes asked for, and the
metadata of both parties.
-/

namespace AttributeRelease

/-! ## Entity metadata -/

/-- A value of an entity attribute; a value of any other type is never matched. -/
inductive EntityValue
  | any (text : Option String)
  | string (value : Option String)
  | other (typeName : String)
deriving DecidableEq

/-- The text of a value that can be matched. -/
def EntityValue.text? : EntityValue → Option String
  | .any text => text
  | .string value => value
  | .other _ => none

/-- A named attribute of an entity. -/
structure EntityAttribute where
  name : String
  nameFormat : Option String
  values : List EntityValue
deriving DecidableEq

/-- The metadata of an entity: its name, and its attributes in the extensions that state them. -/
structure EntityDescriptor where
  entityId : String
  extensions : List (List EntityAttribute)
deriving DecidableEq

/-- The extension that rules look at is the first one. -/
def EntityDescriptor.attributes? (e : EntityDescriptor) : Option (List EntityAttribute) :=
  e.extensions.head?

/-! ## Subject identifiers -/

/-- The format of a subject identifier that states none. -/
def unspecifiedFormat : String := "urn:oasis:names:tc:SAML:1.1:nameid-format:unspecified"

/-- The identifier of the subject as the relying party presents it. -/
inductive Subject
  | saml1 (value : String) (format nameQualifier : Option String)
  | saml2 (value : String) (format nameQualifier spNameQualifier : Option String)
deriving DecidableEq

namespace Subject

def value : Subject → String
  | .saml1 value .. => value
  | .saml2 value .. => value

def format? : Subject → Option String
  | .saml1 _ format _ => format
  | .saml2 _ format _ _ => format

def nameQualifier : Subject → Option String
  | .saml1 _ _ q => q
  | .saml2 _ _ q _ => q

def spNameQualifier : Subject → Option String
  | .saml1 .. => none
  | .saml2 _ _ _ q => q

/-- The stated format; one that is missing or blank is unspecified. -/
def format (s : Subject) : String :=
  match s.format? with
  | some f => if Text.trim f = "" then unspecifiedFormat else f
  | none => unspecifiedFormat

end Subject

/-! ## Requests -/

/-- A request for attributes. -/
structure Request where
  principalName : Option String := none
  authenticationMethod : Option String := none
  /-- The relying party that asks. -/
  requester : Option String := none
  /-- The provider that answers. -/
  issuer : Option String := none
  localEntityId : Option String := none
  subject : Option Subject := none
  /-- The attributes asked for; none at all asks for every one. -/
  requestedIds : List String := []
  peerMetadata : Option EntityDescriptor := none
  localMetadata : Option EntityDescriptor := none
deriving DecidableEq

namespace Request

def empty : Request := {}

/-- Sets the provider that answers, which is then the local entity too. -/
def withIssuer (r : Request) (entityId : String) : Request :=
  { r with localEntityId := some entityId, issuer := some entityId }

/-- The format that a principal is looked up by. -/
def subjectFormat (r : Request) : String := (r.subject.map Subject.format).getD unspecifiedFormat

end Request

end AttributeRelease
