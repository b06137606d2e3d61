import AttributeRelease.Text.Category
import AttributeRelease.Text.CharSet
import AttributeRelease.Text.Property
import AttributeRelease.Value.Basic

/-!
# Values in messages

Values as they appear in diagnostic texts: the kind of the value, and its content in parentheses. A
text stands between double quotes; what does not print, and what would join with the character
before it, is written by its code point.
-/

namespace AttributeRelease

/-! ## Quoted texts -/

namespace Text

/-- A character prints unless its category says that nothing is shown for it; of the spaces only
the plain one prints. -/
def printable (c : Char) : Bool :=
  c == ' ' || !([Category.control, Category.format, Category.surrogate, Category.privateUse,
    Category.unassigned, Category.spaceSeparator, Category.lineSeparator,
    Category.paragraphSeparator].any (·.contains c))

/-- The hexadecimal digits of a number, without leading zeros. -/
def hexDigits (n : Nat) : List Char := Nat.toDigits 16 n

/-- How a character is written between double quotes. -/
def quotedChar (c : Char) : List Char :=
  match c with
  | '\x00' => ['\\', '0']
  | '\t' => ['\\', 't']
  | '\r' => ['\\', 'r']
  | '\n' => ['\\', 'n']
  | '"' => ['\\', '"']
  | '\\' => ['\\', '\\']
  | c =>
    if Property.graphemeExtend.contains c || !printable c then
      ['\\', 'u', '\x7b'] ++ hexDigits c.toNat ++ ['\x7d']
    else [c]

/-- A text between double quotes. -/
def quoted (s : String) : String :=
  String.ofList ('"' :: s.toList.flatMap quotedChar ++ ['"'])

end Text

/-! ## Values -/

/-- Items between brackets. -/
def bracketed (items : List String) : String := "[" ++ ", ".intercalate items ++ "]"

/-- Named fields after the name of what has them. -/
def withFields (name : String) (fields : List (String × String)) : String :=
  name ++ " \x7b " ++ ", ".intercalate (fields.map fun f => f.1 ++ ": " ++ f.2) ++ " \x7d"

/-- A text, or that there is none. -/
def debugOption (s : Option String) : String :=
  match s with
  | none => "None"
  | some s => "Some(" ++ Text.quoted s ++ ")"

def debugBool (b : Bool) : String := if b then "true" else "false"

def debugBytes (bs : List UInt8) : String := bracketed (bs.map fun b => b.toNat.repr)

/-- A value as it appears in diagnostic texts. -/
def Value.debug : Value → String
  | .string s => "String(" ++ Text.quoted s ++ ")"
  | .integer n => "Integer(" ++ n.toInt.repr ++ ")"
  | .decimal s => "Decimal(" ++ Text.quoted s ++ ")"
  | .double x => "Double(FloatValue(" ++ x.debugText ++ "))"
  | .boolean b => "Boolean(" ++ debugBool b ++ ")"
  | .bytes bs => "Bytes(" ++ debugBytes bs ++ ")"
  | .date d => "Date(" ++ d.text ++ ")"
  | .time t => "Time(" ++ t.text ++ ")"
  | .timestamp t => "Timestamp(" ++ t.isoText ++ ")"
  | .url s => "Url(" ++ Text.quoted s ++ ")"
  | .nameId n => "NameId(" ++ withFields "NameIdentifierValue"
      [("value", Text.quoted n.value), ("format", debugOption n.format),
        ("name_qualifier", debugOption n.nameQualifier),
        ("sp_name_qualifier", debugOption n.spNameQualifier)] ++ ")"
  | .scoped s => "Scoped(" ++ withFields "ScopedValue"
      [("value", Text.quoted s.value), ("scope", Text.quoted s.scope)] ++ ")"
  | .xml s => "Xml(" ++ Text.quoted s ++ ")"

end AttributeRelease
