/-!
# Base 64

Bytes written with 64 characters, three bytes as four characters. The padded form is for showing
bytes; the unpadded form over the URL-safe alphabet is the form of sealed tokens, and it is read
strictly: no padding, no other character, and no set bit beyond the last byte.
-/

namespace AttributeRelease.Text.Base64

/-- An alphabet is known by its last two characters; the first 62 are letters and digits. -/
structure Alphabet where
  char62 : Char
  char63 : Char

def standard : Alphabet := ⟨'+', '/'⟩

def urlSafe : Alphabet := ⟨'-', '_'⟩

/-- The character of a six bit number. -/
def Alphabet.char (a : Alphabet) (n : Nat) : Char :=
  if n < 26 then Char.ofNat (65 + n)
  else if n < 52 then Char.ofNat (71 + n)
  else if n < 62 then Char.ofNat (n - 4)
  else if n = 62 then a.char62 else a.char63

/-- The six bit number of a character. -/
def Alphabet.value? (a : Alphabet) (c : Char) : Option Nat :=
  let n := c.toNat
  if 65 ≤ n ∧ n ≤ 90 then some (n - 65)
  else if 97 ≤ n ∧ n ≤ 122 then some (n - 71)
  else if 48 ≤ n ∧ n ≤ 57 then some (n + 4)
  else if c = a.char62 then some 62
  else if c = a.char63 then some 63
  else none

/-- Bytes as six bit numbers; the last number is filled up with zero bits. -/
def sextets : List UInt8 → List Nat
  | a :: b :: c :: rest =>
    let n := a.toNat * 65536 + b.toNat * 256 + c.toNat
    n / 262144 :: n / 4096 % 64 :: n / 64 % 64 :: n % 64 :: sextets rest
  | [a, b] =>
    let n := a.toNat * 1024 + b.toNat * 4
    [n / 4096, n / 64 % 64, n % 64]
  | [a] => [a.toNat / 4, a.toNat % 4 * 16]
  | [] => []

/-- Six bit numbers as bytes; a number left alone, or a set bit beyond the last byte, is refused. -/
def octets? : List Nat → Option (List UInt8)
  | a :: b :: c :: d :: rest =>
    let n := a * 262144 + b * 4096 + c * 64 + d
    (octets? rest).map fun more =>
      UInt8.ofNat (n / 65536) :: UInt8.ofNat (n / 256 % 256) :: UInt8.ofNat (n % 256) :: more
  | [a, b, c] =>
    let n := a * 4096 + b * 64 + c
    if n % 4 = 0 then some [UInt8.ofNat (n / 1024), UInt8.ofNat (n / 4 % 256)] else none
  | [a, b] => if b % 16 = 0 then some [UInt8.ofNat (a * 4 + b / 16)] else none
  | [_] => none
  | [] => some []

def encode (a : Alphabet) (bytes : List UInt8) : List Char := (sextets bytes).map a.char

def decode? (a : Alphabet) (chars : List Char) : Option (List UInt8) :=
  (chars.mapM a.value?).bind octets?

/-- The padded form of the standard alphabet. -/
def padded (bytes : List UInt8) : String :=
  let body := encode standard bytes
  String.ofList (body ++ List.replicate ((4 - body.length % 4) % 4) '=')

/-- The unpadded form of the URL-safe alphabet. -/
def unpadded (bytes : List UInt8) : String := String.ofList (encode urlSafe bytes)

/-- Reads the unpadded form of the URL-safe alphabet. -/
def unpadded? (text : String) : Option (List UInt8) := decode? urlSafe text.toList

end AttributeRelease.Text.Base64
