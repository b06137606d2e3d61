import AttributeRelease.Calendar.Date
import AttributeRelease.Number.Notation
import AttributeRelease.Text.Base64
import AttributeRelease.Value.Scoped

/-!
# Attribute values

The values an attribute can have, and their texts. Values are equal when they are of one kind and
their contents are; double precision numbers are compared by their bits.
-/

namespace AttributeRelease

open AttributeRelease.Number (Binary64)
open AttributeRelease.Calendar (Date Time Timestamp)

/-- A subject identifier with its format and qualifiers. -/
structure NameIdentifier where
  value : String
  format : Option String
  nameQualifier : Option String
  spNameQualifier : Option String
deriving DecidableEq

/-- A value of an attribute. -/
inductive Value
  | string (s : String)
  | integer (n : Int64)
  /-- A decimal number of any size, as its text. -/
  | decimal (s : String)
  | double (x : Binary64)
  | boolean (b : Bool)
  | bytes (bs : List UInt8)
  | date (d : Date)
  | time (t : Time)
  | timestamp (t : Timestamp)
  | url (s : String)
  | nameId (n : NameIdentifier)
  | scoped (s : Scoped)
  /-- A fragment of XML, as its text. -/
  | xml (s : String)
deriving DecidableEq

namespace Value

/-- The text of a value that is made of text. -/
def asText? : Value → Option String
  | .string s | .decimal s | .url s | .xml s => some s
  | .nameId n => some n.value
  | .scoped s => some s.value
  | _ => none

/-- How a value is shown. -/
def display : Value → String
  | .string s | .decimal s | .url s | .xml s => s
  | .integer n => n.toInt.repr
  | .double x => x.text
  | .boolean b => if b then "true" else "false"
  | .bytes bs => Text.Base64.padded bs
  | .date d => d.text
  | .time t => t.text
  | .timestamp t => t.text
  | .nameId n => n.value
  | .scoped s => s.text

/-- The text that a value is matched by: a scoped value is matched by its part before the scope. -/
def text (v : Value) : String := v.asText?.getD v.display

/-- The scope of a scoped value. -/
def scope? : Value → Option String
  | .scoped s => some s.scope
  | _ => none

/-- A value made of text is blank when its text is empty. -/
def isBlank (v : Value) : Bool := v.asText? == some ""

end Value

end AttributeRelease
