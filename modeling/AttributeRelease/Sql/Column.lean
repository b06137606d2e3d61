import AttributeRelease.Json.Record

/-!
# Columns

The types that a column of a query result can be declared to have, and how a column becomes an
attribute.
-/

namespace AttributeRelease

/-- The declared type of a column. -/
inductive ColumnType
  | bigDecimal
  | boolean
  | byte
  | byteArray
  | date
  | double
  | float
  | integer
  | long
  | object
  | short
  | string
  | time
  | timestamp
  | url
deriving DecidableEq, Repr

namespace ColumnType

def all : List ColumnType :=
  [bigDecimal, boolean, byte, byteArray, date, double, float, integer, long, object, short, string,
    time, timestamp, url]

/-- The name of a type in settings. -/
def name : ColumnType → String
  | bigDecimal => "big_decimal"
  | boolean => "boolean"
  | byte => "byte"
  | byteArray => "byte_array"
  | date => "date"
  | double => "double"
  | float => "float"
  | integer => "integer"
  | long => "long"
  | object => "object"
  | short => "short"
  | string => "string"
  | time => "time"
  | timestamp => "timestamp"
  | url => "url"

/-- The name of a type in messages. -/
def title : ColumnType → String
  | bigDecimal => "BigDecimal"
  | boolean => "Boolean"
  | byte => "Byte"
  | byteArray => "ByteArray"
  | date => "Date"
  | double => "Double"
  | float => "Float"
  | integer => "Integer"
  | long => "Long"
  | object => "Object"
  | short => "Short"
  | string => "String"
  | time => "Time"
  | timestamp => "Timestamp"
  | url => "Url"

def named? (name : String) : Option ColumnType := all.find? fun t => t.name == name

def ofJson? (j : Json) : Option ColumnType := j.asChoice?.bind named?

end ColumnType

/-- How a column becomes an attribute. -/
structure Column where
  name : String
  attributeId : String
  type : ColumnType
deriving DecidableEq

namespace Column

def toJson (c : Column) : Json :=
  .object [("column_name", .string c.name), ("attribute_id", .string c.attributeId),
    ("data_type", .string c.type.name)]

def ofJson? (j : Json) : Option Column :=
  match j.slots? ["column_name", "attribute_id", "data_type"] with
  | some [name, attributeId, type] => do
    return ⟨← name.required? Json.asString?, ← attributeId.required? Json.asString?,
      ← type.required? ColumnType.ofJson?⟩
  | _ => none

end Column

end AttributeRelease
