import AttributeRelease.Value.Debug

/-!
# Values of query results
-/

namespace AttributeRelease

open AttributeRelease.Calendar (Date Time Timestamp)
open AttributeRelease.Number (Binary64)

/-- A value in a column of a query result. -/
inductive SqlValue
  | null
  | text (s : String)
  | integer (n : Int64)
  | float (x : Binary64)
  /-- An exact number, as its text. -/
  | decimal (s : String)
  | boolean (b : Bool)
  | bytes (bs : List UInt8)
  | date (d : Date)
  | time (t : Time)
  | timestamp (t : Timestamp)
deriving DecidableEq

namespace SqlValue

/-- The attribute value of the same type; null is none. -/
def native? : SqlValue → Option Value
  | null => none
  | text s => some (.string s)
  | integer n => some (.integer n)
  | float x => some (.double x)
  | decimal s => some (.decimal s)
  | boolean b => some (.boolean b)
  | bytes bs => some (.bytes bs)
  | date d => some (.date d)
  | time t => some (.time t)
  | timestamp t => some (.timestamp t)

/-- A value as it appears in messages. -/
def debug : SqlValue → String
  | null => "Null"
  | text s => "Text(" ++ Text.quoted s ++ ")"
  | integer n => "Integer(" ++ n.toInt.repr ++ ")"
  | float x => "Float(" ++ x.debugText ++ ")"
  | decimal s => "Decimal(" ++ Text.quoted s ++ ")"
  | boolean b => "Boolean(" ++ debugBool b ++ ")"
  | bytes bs => "Bytes(" ++ debugBytes bs ++ ")"
  | date d => "Date(" ++ d.text ++ ")"
  | time t => "Time(" ++ t.text ++ ")"
  | timestamp t => "Timestamp(" ++ t.isoText ++ ")"

end SqlValue

/-- A row of a query result: its columns in order, by their names. -/
abbrev SqlRow := List (String × SqlValue)

end AttributeRelease
