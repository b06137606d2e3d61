import AttributeRelease.RequestCodec
import AttributeRelease.Proofs.Json.Record
import AttributeRelease.Proofs.Json.Text

/-!
# Requests read back

Each part of a request is read back from the document that is written for it, and that document says
all that its text says.  So a request is read back from its JSON text.
-/

namespace AttributeRelease

open Json (Exact maxHeight)

/-! ## Entity metadata -/

namespace EntityValue

theorem ofJson?_toJson {level : Nat} (hlevel : level < maxHeight) (v : EntityValue) :
    ofJson? level v.toJson = some v := by
  cases v with
  | any text =>
      obtain ⟨t, htagged, htag, hslots⟩ := Json.exists_tagged "kind" "any" ["text_content"]
        [("text_content", .ofOption text)] rfl (by decide) (Json.canKeep_ofOption hlevel text)
      simp only [ofJson?, toJson, htagged, Option.bind_eq_bind, Option.bind_some, htag, hslots,
        List.map_cons, List.map_nil, Json.Slot.optional?, Json.asOption?_ofOption]
      rfl
  | string value =>
      obtain ⟨t, htagged, htag, hslots⟩ := Json.exists_tagged "kind" "string" ["value"]
        [("value", .ofOption value)] rfl (by decide) (Json.canKeep_ofOption hlevel value)
      simp only [ofJson?, toJson, htagged, Option.bind_eq_bind, Option.bind_some, htag, hslots,
        List.map_cons, List.map_nil, Json.Slot.optional?, Json.asOption?_ofOption]
      rfl
  | other typeName =>
      obtain ⟨t, htagged, htag, hslots⟩ := Json.exists_tagged "kind" "other" ["type_name"]
        [("type_name", .string typeName)] rfl (by decide) (Json.canKeep_string hlevel typeName)
      simp only [ofJson?, toJson, htagged, Option.bind_eq_bind, Option.bind_some, htag, hslots,
        List.map_cons, List.map_nil, Json.Slot.required?, Json.asString?]
      rfl

theorem exact_toJson (v : EntityValue) : Exact v.toJson := by
  cases v with
  | any text => exact Json.exact_object ⟨.string "any", Json.exact_ofOption text⟩
  | string value => exact Json.exact_object ⟨.string "string", Json.exact_ofOption value⟩
  | other typeName => exact Json.exact_object ⟨.string "other", .string typeName⟩

end EntityValue

namespace EntityAttribute

theorem ofJson?_toJson {level : Nat} (hlevel : level + 2 < maxHeight) (a : EntityAttribute) :
    ofJson? level a.toJson = some a := by
  have hslots : a.toJson.slots? ["name", "name_format", "values"] =
      some [.given (.string a.name), .given (.ofOption a.nameFormat),
        .given (.array (a.values.map EntityValue.toJson))] :=
    Json.memberSlots?_of_names rfl (by decide)
  have hvalues := Json.asArray?_map (EntityValue.ofJson?_toJson hlevel) a.values
  simp only [ofJson?, hslots, Json.Slot.required?, Json.asString?, Json.Slot.optional?,
    Json.asOption?_ofOption, Json.Slot.orElse?, hvalues]
  rfl

theorem exact_toJson (a : EntityAttribute) : Exact a.toJson :=
  Json.exact_object ⟨.string a.name, Json.exact_ofOption a.nameFormat,
    Json.exact_map EntityValue.exact_toJson a.values⟩

end EntityAttribute

namespace EntityDescriptor

theorem extensionOfJson?_extensionToJson {level : Nat} (hlevel : level + 4 < maxHeight)
    (attributes : List EntityAttribute) :
    extensionOfJson? level (extensionToJson attributes) = some attributes := by
  have hslots : (extensionToJson attributes).slots? ["attributes"] =
      some [.given (.array (attributes.map EntityAttribute.toJson))] :=
    Json.memberSlots?_of_names rfl (by decide)
  have hattributes := Json.asArray?_map (EntityAttribute.ofJson?_toJson hlevel) attributes
  simp only [extensionOfJson?, hslots, Json.Slot.required?, hattributes]

theorem ofJson?_toJson {level : Nat} (hlevel : level + 6 < maxHeight) (e : EntityDescriptor) :
    ofJson? level e.toJson = some e := by
  have hslots : e.toJson.slots? ["entity_id", "extensions"] =
      some [.given (.string e.entityId), .given (.array (e.extensions.map extensionToJson))] :=
    Json.memberSlots?_of_names rfl (by decide)
  have hextensions := Json.asArray?_map (extensionOfJson?_extensionToJson hlevel) e.extensions
  simp only [ofJson?, hslots, Json.Slot.required?, Json.asString?, Json.Slot.orElse?, hextensions]
  rfl

theorem exact_extensionToJson (attributes : List EntityAttribute) :
    Exact (extensionToJson attributes) :=
  Json.exact_object (Json.exact_map EntityAttribute.exact_toJson attributes)

theorem exact_toJson (e : EntityDescriptor) : Exact e.toJson :=
  Json.exact_object ⟨.string e.entityId, Json.exact_map exact_extensionToJson e.extensions⟩

end EntityDescriptor

/-! ## Subject identifiers -/

namespace Subject

theorem ofJson?_toJson {level : Nat} (hlevel : level < maxHeight) (s : Subject) :
    ofJson? level s.toJson = some s := by
  have hkeep := fun text => Json.canKeep_ofOption hlevel text
  cases s with
  | saml1 value format nameQualifier =>
      obtain ⟨t, htagged, htag, hslots⟩ := Json.exists_tagged "version" "saml1"
        ["value", "format", "name_qualifier"]
        [("value", .string value), ("format", .ofOption format),
          ("name_qualifier", .ofOption nameQualifier)] rfl (by decide)
        ⟨Json.canKeep_string hlevel value, hkeep format, hkeep nameQualifier⟩
      simp only [ofJson?, toJson, htagged, Option.bind_eq_bind, Option.bind_some, htag, hslots,
        List.map_cons, List.map_nil, Json.Slot.required?, Json.asString?, Json.Slot.optional?,
        Json.asOption?_ofOption]
      rfl
  | saml2 value format nameQualifier spNameQualifier =>
      obtain ⟨t, htagged, htag, hslots⟩ := Json.exists_tagged "version" "saml2"
        ["value", "format", "name_qualifier", "sp_name_qualifier"]
        [("value", .string value), ("format", .ofOption format),
          ("name_qualifier", .ofOption nameQualifier),
          ("sp_name_qualifier", .ofOption spNameQualifier)] rfl (by decide)
        ⟨Json.canKeep_string hlevel value, hkeep format, hkeep nameQualifier,
          hkeep spNameQualifier⟩
      simp only [ofJson?, toJson, htagged, Option.bind_eq_bind, Option.bind_some, htag, hslots,
        List.map_cons, List.map_nil, Json.Slot.required?, Json.asString?, Json.Slot.optional?,
        Json.asOption?_ofOption]
      rfl

theorem exact_toJson (s : Subject) : Exact s.toJson := by
  cases s with
  | saml1 value format nameQualifier =>
      exact Json.exact_object ⟨.string "saml1", .string value, Json.exact_ofOption format,
        Json.exact_ofOption nameQualifier⟩
  | saml2 value format nameQualifier spNameQualifier =>
      exact Json.exact_object ⟨.string "saml2", .string value, Json.exact_ofOption format,
        Json.exact_ofOption nameQualifier, Json.exact_ofOption spNameQualifier⟩

end Subject

/-! ## Requests -/

namespace Request

theorem text?_given (s : Option String) : text? (.given (.ofOption s)) = some s :=
  Json.asOption?_ofOption s

/-- A part that may be missing is read back, as null is written for no part only. -/
theorem asOption?_partToJson {α : Type} {read : Json → Option α} {write : α → Json}
    (h : ∀ a, read (write a) = some a) (hnull : ∀ a, write a ≠ .null) (part : Option α) :
    Json.asOption? read (partToJson write part) = some part := by
  cases part with
  | none => rfl
  | some a =>
      rw [partToJson, Json.asOption?.eq_2 read (write a) (hnull a), h a]
      rfl

theorem exact_partToJson {α : Type} {write : α → Json} (h : ∀ a, Exact (write a))
    (part : Option α) : Exact (partToJson write part) := by
  cases part with
  | none => exact .null
  | some a => exact h a

theorem ofJson?_toJson (r : Request) : ofJson? r.toJson = some r := by
  have hslots : r.toJson.slots? fieldNames =
      some [.given (.ofOption r.principalName), .given (.ofOption r.authenticationMethod),
        .given (.ofOption r.requester), .given (.ofOption r.issuer),
        .given (.ofOption r.localEntityId), .given (partToJson Subject.toJson r.subject),
        .given (.ofStrings r.requestedIds),
        .given (partToJson EntityDescriptor.toJson r.peerMetadata),
        .given (partToJson EntityDescriptor.toJson r.localMetadata)] :=
    Json.memberSlots?_of_names rfl (by decide)
  have hsubject := asOption?_partToJson (Subject.ofJson?_toJson (show 1 < maxHeight by decide))
    (fun s => by cases s <;> nofun) r.subject
  have hdescriptor := asOption?_partToJson
    (EntityDescriptor.ofJson?_toJson (show 1 + 6 < maxHeight by decide)) (fun e => by nofun)
  simp only [ofJson?, hslots, text?_given, Json.Slot.orElse?, hsubject, Json.asArray?_ofStrings,
    hdescriptor]
  rfl

theorem exact_toJson (r : Request) : Exact r.toJson :=
  Json.exact_object ⟨Json.exact_ofOption r.principalName,
    Json.exact_ofOption r.authenticationMethod, Json.exact_ofOption r.requester,
    Json.exact_ofOption r.issuer, Json.exact_ofOption r.localEntityId,
    exact_partToJson Subject.exact_toJson r.subject, Json.exact_map .string r.requestedIds,
    exact_partToJson EntityDescriptor.exact_toJson r.peerMetadata,
    exact_partToJson EntityDescriptor.exact_toJson r.localMetadata⟩

/-- Every request is read back from its JSON text. -/
theorem reads_back_from_text (r : Request) : ofText? r.text = some r := by
  rw [ofText?, text, Json.ofText?_text r.exact_toJson, Option.bind_some, ofJson?_toJson]

end Request

end AttributeRelease
