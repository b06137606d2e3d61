import AttributeRelease.Attribute
import AttributeRelease.Calendar.Reading
import AttributeRelease.Json.Access
import AttributeRelease.Sql.Value
import AttributeRelease.Value.Codec

/-!
# Values in documents

How values and attributes are written where plugins and policies are described. Texts, truth values
and whole numbers stand for themselves; any other value is an object that tells its type.
-/

namespace AttributeRelease.Document

/-- A value. What a double precision number is, is told by its text. -/
def value (j : Json) : Value :=
  match j with
  | .string s => .string s
  | .bool b => .boolean b
  | .number _ => .integer (j.asInt64?.getD 0)
  | _ =>
    match j.textAt "type" with
    | "double" => .double ((Number.binary64? (j.textAt "value")).getD (.zero false))
    | type => (Value.ofContent? type (j.member "value")).getD (.string "")

def values (j : Json) : List Value := j.items.map value

/-- The orders that have names. -/
def comparator (name : String) : Comparator := fun a b =>
  match name with
  | "text" => compare a.text b.text
  | "text_desc" => compare b.text a.text
  | "length" => compare a.text.utf8ByteSize b.text.utf8ByteSize
  | _ => compare a.display b.display

/-- An attribute: its values, and possibly an order. -/
def attributeOf (id : String) (j : Json) : Attribute :=
  match j with
  | .array js => { id, values := js.map value }
  | _ =>
    { id, values := values (j.member "values"),
      comparator := (j.textAt? "comparator").map comparator }

/-- Attributes as the members of an object. -/
def attributes (j : Json) : AttributeMap := j.members.map fun (id, a) => (id, attributeOf id a)

/-- Attributes as pairs of a name and the values; of repeated names the last one counts. -/
def attributePairs (j : Json) : AttributeMap :=
  j.items.foldl (fun (m : AttributeMap) (pair : Json) =>
    match pair with
    | .array [id, a] => m.insert id.str (attributeOf id.str a)
    | _ => m) []

/-- Bytes as numbers. -/
def bytes (j : Json) : List UInt8 := j.items.map fun b => UInt8.ofNat b.nat

/-- A value in a query result: null, or an object whose one member tells the type. -/
def sqlValue (j : Json) : SqlValue :=
  match j.members with
  | ("text", v) :: _ => .text v.str
  | ("int", v) :: _ => .integer (v.asInt64?.getD 0)
  | ("float", v) :: _ => .float ((Number.binary64? v.str).getD (.zero false))
  | ("decimal", v) :: _ => .decimal v.str
  | ("bool", v) :: _ => .boolean (v.asBool?.getD false)
  | ("bytes", v) :: _ => .bytes (bytes v)
  | ("date", v) :: _ => ((Calendar.Date.ofText? v.str).map .date).getD .null
  | ("time", v) :: _ => ((Calendar.Time.ofText? v.str).map .time).getD .null
  | ("timestamp", v) :: _ => ((Calendar.Timestamp.ofText? v.str).map .timestamp).getD .null
  | _ => .null

end AttributeRelease.Document
