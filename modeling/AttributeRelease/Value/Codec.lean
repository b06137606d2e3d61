import AttributeRelease.Calendar.Reading
import AttributeRelease.Json.Parser
import AttributeRelease.Json.Record
import AttributeRelease.Value.Basic

/-!
# Values as JSON

A value is written as a record of its type and its content. Reading takes the two in any order;
content that comes before the type is set aside until the type is known.
-/

namespace AttributeRelease

open AttributeRelease.Calendar (Date Time Timestamp)

namespace NameIdentifier

def fieldNames : List String := ["value", "format", "name_qualifier", "sp_name_qualifier"]

def toJson (n : NameIdentifier) : Json :=
  .object [("value", .string n.value), ("format", .ofOption n.format),
    ("name_qualifier", .ofOption n.nameQualifier),
    ("sp_name_qualifier", .ofOption n.spNameQualifier)]

def ofJson? (j : Json) : Option NameIdentifier :=
  match j.slots? fieldNames with
  | some [value, format, nameQualifier, spNameQualifier] => do
    return ⟨← value.required? Json.asString?, ← format.optional? Json.asString?,
      ← nameQualifier.optional? Json.asString?, ← spNameQualifier.optional? Json.asString?⟩
  | _ => none

end NameIdentifier

namespace Scoped

def fieldNames : List String := ["value", "scope"]

def toJson (s : Scoped) : Json := .object [("value", .string s.value), ("scope", .string s.scope)]

def ofJson? (j : Json) : Option Scoped :=
  match j.slots? fieldNames with
  | some [value, scope] => do
    return ⟨← value.required? Json.asString?, ← scope.required? Json.asString?⟩
  | _ => none

end Scoped

namespace Value

/-- The name of a value's type. -/
def typeName : Value → String
  | .string _ => "string"
  | .integer _ => "integer"
  | .decimal _ => "decimal"
  | .double _ => "double"
  | .boolean _ => "boolean"
  | .bytes _ => "bytes"
  | .date _ => "date"
  | .time _ => "time"
  | .timestamp _ => "timestamp"
  | .url _ => "url"
  | .nameId _ => "name_id"
  | .scoped _ => "scoped"
  | .xml _ => "xml"

/-- The content of a value. -/
def content : Value → Json
  | .string s | .decimal s | .url s | .xml s => .string s
  | .integer n => .ofInt64 n
  | .double x => .number (.double x)
  | .boolean b => .bool b
  | .bytes bs => .array (bs.map fun b => .ofNat b.toNat)
  | .date d => .string d.text
  | .time t => .string t.text
  | .timestamp t => .string t.isoText
  | .nameId n => n.toJson
  | .scoped s => s.toJson

def toJson (v : Value) : Json := .object [("type", .string v.typeName), ("value", v.content)]

/-- Reads the content of a value of the given type. -/
def ofContent? (type : String) (j : Json) : Option Value :=
  match type with
  | "string" => j.asString?.map .string
  | "integer" => j.asInt64?.map .integer
  | "decimal" => j.asString?.map .decimal
  | "double" => j.asBinary64?.map .double
  | "boolean" => j.asBool?.map .boolean
  | "bytes" => (j.asArray? Json.asByte?).map .bytes
  | "date" => (j.asString?.bind Date.ofText?).map .date
  | "time" => (j.asString?.bind Time.ofText?).map .time
  | "timestamp" => (j.asString?.bind Timestamp.ofText?).map .timestamp
  | "url" => j.asString?.map .url
  | "name_id" => (NameIdentifier.ofJson? j).map .nameId
  | "scoped" => (Scoped.ofJson? j).map .scoped
  | "xml" => j.asString?.map .xml
  | _ => none

/-- Whether the first of two names comes first in an object. -/
def comesFirst (first second : String) (members : List (String × Json)) : Bool :=
  (members.find? fun m => m.1 == first || m.1 == second).any fun m => m.1 == first

/-- Reads a value. -/
def ofJson? (j : Json) : Option Value :=
  match j with
  | .object members =>
    match Json.slot? members "type", Json.slot? members "value" with
    | some (.given tag), some (.given content) =>
      if comesFirst "type" "value" members || content.canKeep 1 then
        tag.asChoice?.bind fun type => ofContent? type content
      else none
    | _, _ => none
  | .array [tag, content] => tag.asChoice?.bind fun type => ofContent? type content
  | _ => none

/-- Reads the text of a value. -/
def ofText? (s : String) : Option Value := (Json.ofText? s).bind ofJson?

end Value

end AttributeRelease
