import AttributeRelease.Request

/-!
# Requests as JSON

Every part of a request may be left out of its JSON form. Subject identifiers and entity values are
tagged records.
-/

namespace AttributeRelease

namespace EntityValue

def toJson : EntityValue → Json
  | .any text => .object [("kind", .string "any"), ("text_content", .ofOption text)]
  | .string value => .object [("kind", .string "string"), ("value", .ofOption value)]
  | .other typeName => .object [("kind", .string "other"), ("type_name", .string typeName)]

/-- Reads a value that lies in `level` arrays and objects. -/
def ofJson? (level : Nat) (j : Json) : Option EntityValue := do
  let t ← j.tagged? "kind" level
  match t.tag with
  | "any" =>
    match t.slots? ["text_content"] with
    | some [text] => return .any (← text.optional? Json.asString?)
    | _ => none
  | "string" =>
    match t.slots? ["value"] with
    | some [value] => return .string (← value.optional? Json.asString?)
    | _ => none
  | "other" =>
    match t.slots? ["type_name"] with
    | some [typeName] => return .other (← typeName.required? Json.asString?)
    | _ => none
  | _ => none

end EntityValue

namespace EntityAttribute

def toJson (a : EntityAttribute) : Json :=
  .object [("name", .string a.name), ("name_format", .ofOption a.nameFormat),
    ("values", .array (a.values.map EntityValue.toJson))]

def ofJson? (level : Nat) (j : Json) : Option EntityAttribute :=
  match j.slots? ["name", "name_format", "values"] with
  | some [name, nameFormat, values] => do
    return ⟨← name.required? Json.asString?, ← nameFormat.optional? Json.asString?,
      ← values.orElse? [] (Json.asArray? (EntityValue.ofJson? (level + 2)))⟩
  | _ => none

end EntityAttribute

namespace EntityDescriptor

def extensionToJson (attributes : List EntityAttribute) : Json :=
  .object [("attributes", .array (attributes.map EntityAttribute.toJson))]

def toJson (e : EntityDescriptor) : Json :=
  .object [("entity_id", .string e.entityId),
    ("extensions", .array (e.extensions.map extensionToJson))]

def extensionOfJson? (level : Nat) (j : Json) : Option (List EntityAttribute) :=
  match j.slots? ["attributes"] with
  | some [attributes] => attributes.required? (Json.asArray? (EntityAttribute.ofJson? (level + 2)))
  | _ => none

def ofJson? (level : Nat) (j : Json) : Option EntityDescriptor :=
  match j.slots? ["entity_id", "extensions"] with
  | some [entityId, extensions] => do
    return ⟨← entityId.required? Json.asString?,
      ← extensions.orElse? [] (Json.asArray? (extensionOfJson? (level + 2)))⟩
  | _ => none

end EntityDescriptor

namespace Subject

def toJson : Subject → Json
  | .saml1 value format nameQualifier =>
    .object [("version", .string "saml1"), ("value", .string value), ("format", .ofOption format),
      ("name_qualifier", .ofOption nameQualifier)]
  | .saml2 value format nameQualifier spNameQualifier =>
    .object [("version", .string "saml2"), ("value", .string value), ("format", .ofOption format),
      ("name_qualifier", .ofOption nameQualifier),
      ("sp_name_qualifier", .ofOption spNameQualifier)]

/-- Reads a subject identifier that lies in `level` arrays and objects. -/
def ofJson? (level : Nat) (j : Json) : Option Subject := do
  let t ← j.tagged? "version" level
  match t.tag with
  | "saml1" =>
    match t.slots? ["value", "format", "name_qualifier"] with
    | some [value, format, nameQualifier] =>
      return .saml1 (← value.required? Json.asString?) (← format.optional? Json.asString?)
        (← nameQualifier.optional? Json.asString?)
    | _ => none
  | "saml2" =>
    match t.slots? ["value", "format", "name_qualifier", "sp_name_qualifier"] with
    | some [value, format, nameQualifier, spNameQualifier] =>
      return .saml2 (← value.required? Json.asString?) (← format.optional? Json.asString?)
        (← nameQualifier.optional? Json.asString?) (← spNameQualifier.optional? Json.asString?)
    | _ => none
  | _ => none

end Subject

namespace Request

def fieldNames : List String :=
  ["principal_name", "principal_authentication_method", "inbound_message_issuer",
    "outbound_message_issuer", "local_entity_id", "subject_name_identifier",
    "requested_attribute_ids", "peer_entity_metadata", "local_entity_metadata"]

/-- A part as JSON, or null where there is none. -/
def partToJson {α : Type} (write : α → Json) (part : Option α) : Json :=
  match part with
  | none => .null
  | some a => write a

def toJson (r : Request) : Json :=
  .object [("principal_name", .ofOption r.principalName),
    ("principal_authentication_method", .ofOption r.authenticationMethod),
    ("inbound_message_issuer", .ofOption r.requester),
    ("outbound_message_issuer", .ofOption r.issuer),
    ("local_entity_id", .ofOption r.localEntityId),
    ("subject_name_identifier", partToJson Subject.toJson r.subject),
    ("requested_attribute_ids", .ofStrings r.requestedIds),
    ("peer_entity_metadata", partToJson EntityDescriptor.toJson r.peerMetadata),
    ("local_entity_metadata", partToJson EntityDescriptor.toJson r.localMetadata)]

/-- Reads a text that may be missing. -/
def text? (s : Json.Slot) : Option (Option String) := s.orElse? none (Json.asOption? Json.asString?)

def ofJson? (j : Json) : Option Request :=
  match j.slots? fieldNames with
  | some [principal, method, requester, issuer, localId, subject, requested, peer, own] => do
    return {
      principalName := ← text? principal
      authenticationMethod := ← text? method
      requester := ← text? requester
      issuer := ← text? issuer
      localEntityId := ← text? localId
      subject := ← subject.orElse? none (Json.asOption? (Subject.ofJson? 1))
      requestedIds := ← requested.orElse? [] (Json.asArray? Json.asString?)
      peerMetadata := ← peer.orElse? none (Json.asOption? (EntityDescriptor.ofJson? 1))
      localMetadata := ← own.orElse? none (Json.asOption? (EntityDescriptor.ofJson? 1)) }
  | _ => none

/-- Reads the JSON text of a request. -/
def ofText? (s : String) : Option Request := (Json.ofText? s).bind ofJson?

/-- The JSON text of a request. -/
def text (r : Request) : String := r.toJson.text

end Request

end AttributeRelease
