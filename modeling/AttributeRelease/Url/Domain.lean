import AttributeRelease.Text.Category
import AttributeRelease.Text.Punycode
import AttributeRelease.Text.Utf8
import AttributeRelease.Url.Address
import AttributeRelease.Url.DomainTable

/-!
# Domain names

The host of a URL as a domain name: escapes are undone, capital letters and look-alikes are
replaced, and what no domain name has is refused.
-/

namespace AttributeRelease.Url

/-- The value of a byte that is a hexadecimal digit. -/
def hexByte? (b : UInt8) : Option Nat := Text.CharSet.hexDigit? (Char.ofNat b.toNat)

/-- The bytes of a text in which a percent sign and two hexadecimal digits stand for a byte. -/
def unescape : List UInt8 → List UInt8
  | p :: a :: b :: rest =>
    match hexByte? a, hexByte? b with
    | some m, some n =>
      if p = 37 then UInt8.ofNat (16 * m + n) :: unescape rest else p :: unescape (a :: b :: rest)
    | _, _ => p :: unescape (a :: b :: rest)
  | bs => bs

/-- ASCII characters that no domain name has. -/
def isForbidden (c : Char) : Bool :=
  c.toNat ≤ 32 || c.toNat = 127 || "%#/:<>?@[\\]^|".toList.contains c

/-- How a character of a domain name is written, if a domain name may have it. -/
def mapped? (c : Char) : Option (List Char) :=
  if c.toNat < 128 then
    if isForbidden c then none
    else if 'A' ≤ c ∧ c ≤ 'Z' then some [Char.ofNat (c.toNat + 32)] else some [c]
  else if DomainTable.refused.contains c then none
  else if DomainTable.ignored.contains c then some []
  else
    match DomainTable.asciiForms.findSome? (·.map? c.toNat) with
    | some n => some [Char.ofNat n]
    | none => some [Text.lowerChar c]

/-- Whether a character stands for itself in a domain name. -/
def isFixed (c : Char) : Bool := mapped? c == some [c]

/-- The mark of a label in ASCII form. -/
def asciiMark : List Char := "xn--".toList

def isMark (c : Char) : Bool :=
  Text.Category.nonspacingMark.contains c || Text.Category.spacingMark.contains c ||
    Text.Category.enclosingMark.contains c

/-- A label does not begin with a combining mark. In ASCII form it stands for a label with other
characters. -/
def isLabel (cs : List Char) : Bool :=
  if asciiMark.isPrefixOf cs then
    match Text.Punycode.decode? (cs.drop asciiMark.length) with
    | none => false
    | some label =>
      label.all isFixed && label.any (fun c => 128 ≤ c.toNat) && !(label.head?.any isMark)
  else !(cs.head?.any isMark)

/-- The domain name that the host of a URL is, if it is one. -/
def domain? (host : List Char) : Option (List Char) := do
  let text ← (Text.decodeUtf8 (unescape (Text.encodeUtf8 (String.ofList host)))).toOption
  let mapped ← text.toList.mapM mapped?
  let name := mapped.flatten
  if (Text.pieces '.' name).all isLabel then some name else none

end AttributeRelease.Url
