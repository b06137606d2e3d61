import AttributeRelease.Calendar.Reading
import AttributeRelease.Sql.Column
import AttributeRelease.Sql.Value
import AttributeRelease.Text.Blank
import AttributeRelease.Text.Utf8
import AttributeRelease.Url.Basic

/-!
# Coercion

How the values of a column become attribute values of its declared type. Null becomes no value; a
value that does not fit the type is an error.
-/

namespace AttributeRelease

open AttributeRelease.Calendar (Date Time Timestamp)
open AttributeRelease.Number (Binary64)

/-- Why a value does not fit the declared type of its column. -/
inductive CoercionError
  /-- The value has no form of the type. -/
  | mismatch (value : SqlValue) (type : ColumnType)
  /-- The bytes are no text. -/
  | notText (cause : Text.Utf8Error)
  /-- The text is no URL. -/
  | notUrl (text : String) (cause : Url.Error)
deriving DecidableEq

def CoercionError.message : CoercionError → String
  | mismatch value type => s!"cannot convert {value.debug} to {type.title}"
  | notText cause => cause.message
  | notUrl text cause => s!"cannot convert '{text}' to Url: {cause.message}"

namespace ColumnType

/-- The least and the greatest number of a type of whole numbers. -/
def bounds? : ColumnType → Option (Int × Int)
  | byte => some (-Int.pow 2 7, Int.pow 2 7 - 1)
  | short => some (-Int.pow 2 15, Int.pow 2 15 - 1)
  | integer => some (-Int.pow 2 31, Int.pow 2 31 - 1)
  | long => some (-Int.pow 2 63, Int.pow 2 63 - 1)
  | _ => none

/-- The whole number that a value denotes. -/
def wholeNumber? : SqlValue → Option Int64
  | .integer n => some n
  | .boolean b => some (if b then 1 else 0)
  | .text s | .decimal s => Number.int64? (Text.trim s)
  | _ => none

/-- The double precision number that a value denotes. -/
def double? : SqlValue → Option Binary64
  | .float x => some x
  | .integer n => some (.ofInt n.toInt)
  | .text s | .decimal s => Number.binary64? (Text.trim s)
  | _ => none

/-- The truth value that a text names. -/
def truth? (s : String) : Option Bool :=
  let word := Text.lowercaseAscii (Text.trim s)
  if ["true", "t", "yes", "y", "1"].contains word then some true
  else if ["false", "f", "no", "n", "0"].contains word then some false
  else none

/-- A value, or the error that there is none. -/
def fit (type : ColumnType) (value : SqlValue) (fitting : Option Value) :
    Except CoercionError (Option Value) :=
  match fitting with
  | some v => .ok (some v)
  | none => .error (.mismatch value type)

/-- A whole number within the bounds of a type. -/
def coerceWhole (type : ColumnType) (low high : Int) (value : SqlValue) :
    Except CoercionError (Option Value) :=
  fit type value ((wholeNumber? value).bind fun n =>
    if low ≤ n.toInt ∧ n.toInt ≤ high then some (.integer n) else none)

/-- A text: bytes are read as one, and other values are shown. -/
def coerceText (value : SqlValue) : Except CoercionError (Option Value) :=
  match value with
  | .bytes bs =>
    match Text.decodeUtf8 bs with
    | .ok s => .ok (some (.string s))
    | .error e => .error (.notText e)
  | value => .ok (value.native?.map fun v => .string v.display)

/-- A URL keeps the text that it was given by. -/
def coerceUrl (value : SqlValue) : Except CoercionError (Option Value) :=
  match value with
  | .text s =>
    match Url.check (Text.trim s) with
    | .ok () => .ok (some (.url s))
    | .error e => .error (.notUrl s e)
  | value => .error (.mismatch value .url)

/-- The value of another type, if there is one. -/
def other? : ColumnType → SqlValue → Option Value
  | boolean, .boolean b => some (.boolean b)
  | boolean, .integer n => some (.boolean (n != 0))
  | boolean, .text s => (truth? s).map .boolean
  | double, value => (double? value).map .double
  | float, value => (double? value).map fun x => .double x.toSingle
  | bigDecimal, .decimal s => some (.decimal s)
  | bigDecimal, .integer n => some (.decimal n.toInt.repr)
  | bigDecimal, .float x => some (.decimal x.text)
  | bigDecimal, .text s =>
    if (Number.binary64? (Text.trim s)).isSome then some (.decimal (Text.trim s)) else none
  | byteArray, .bytes bs => some (.bytes bs)
  | byteArray, .text s => some (.bytes (Text.encodeUtf8 s))
  | date, .date d => some (.date d)
  | date, .timestamp t => some (.date t.date)
  | date, .text s => (Date.ofColumn? (Text.trim s)).map .date
  | time, .time t => some (.time t)
  | time, .timestamp t => some (.time t.time)
  | time, .text s => (Time.ofColumn? (Text.trim s)).map .time
  | timestamp, .timestamp t => some (.timestamp t)
  | timestamp, .date d => some (.timestamp ⟨d, .midnight⟩)
  | timestamp, .text s => (Timestamp.ofColumn? (Text.trim s)).map .timestamp
  | _, _ => none

/-- The attribute value of the declared type; null becomes none. -/
def coerce (type : ColumnType) (value : SqlValue) : Except CoercionError (Option Value) :=
  match value with
  | .null => .ok none
  | value =>
    match type with
    | object => .ok value.native?
    | string => coerceText value
    | url => coerceUrl value
    | type =>
      match type.bounds? with
      | some (low, high) => type.coerceWhole low high value
      | none => type.fit value (type.other? value)

end ColumnType

end AttributeRelease
