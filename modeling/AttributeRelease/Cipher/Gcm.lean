/-!
# Galois counter mode

Authenticated encryption with any block cipher: a text is added to the encryptions of consecutive
counters, and a tag over the result is added to the encryption of the first counter.
-/

namespace AttributeRelease.Cipher.Gcm

abbrev Bytes := List UInt8

/-- A block cipher under some key. -/
abbrev BlockCipher := Bytes → Bytes

/-- The number that bytes denote, the highest first. -/
def toNat (bs : Bytes) : Nat := bs.foldl (fun n b => 256 * n + b.toNat) 0

/-- The lowest `count` bytes of a number, the highest first. -/
def ofNat : Nat → Nat → Bytes
  | 0, _ => []
  | count + 1, n => ofNat count (n / 256) ++ [UInt8.ofNat (n % 256)]

/-- Adds a stream to a text bit by bit, as far as the stream goes. -/
def addStream : Bytes → Bytes → Bytes
  | _, [] => []
  | [], bs => bs
  | k :: ks, b :: bs => (b ^^^ k) :: addStream ks bs

/-- The block of a counter. -/
def counterBlock (nonce : Bytes) (counter : Nat) : Bytes :=
  nonce ++ ofNat 4 (counter % Nat.pow 2 32)

/-- Adds the encryptions of consecutive counters to a text. -/
def counterMode (cipher : BlockCipher) (nonce : Bytes) (counter : Nat) : Bytes → Bytes
  | [] => []
  | b :: bs =>
    addStream (cipher (counterBlock nonce counter)) (b :: bs.take 15) ++
      counterMode cipher nonce (counter + 1) (bs.drop 15)
termination_by bs => bs.length
decreasing_by simp only [List.length_drop, List.length_cons]; omega

/-! ## Tags -/

/-- The product of `x` with the lowest `n` bits of `y` in the field of the mode, in which the
highest bit of a number is its constant term. -/
def mulBits : Nat → Nat → Nat → Nat
  | 0, _, _ => 0
  | n + 1, x, y =>
    let next := if x % 2 = 1 then (x / 2) ^^^ (0xE1 * Nat.pow 2 120) else x / 2
    (if y.testBit n then x else 0) ^^^ mulBits n next y

def mul (x y : Nat) : Nat := mulBits 128 x y

/-- The hash of a text of whole blocks, of which there are `count`. -/
def hashBlocks (h : Nat) : Nat → Nat → Bytes → Nat
  | 0, y, _ => y
  | count + 1, y, bs => hashBlocks h count (mul (y ^^^ toNat (bs.take 16)) h) (bs.drop 16)

/-- A text filled up with zeros to whole blocks. -/
def pad (bs : Bytes) : Bytes := bs ++ List.replicate ((16 - bs.length % 16) % 16) 0

/-- The tag of an encrypted text. -/
def tag (cipher : BlockCipher) (nonce text : Bytes) : Bytes :=
  let h := toNat (cipher (List.replicate 16 0))
  let blocks := pad text ++ ofNat 8 0 ++ ofNat 8 (8 * text.length)
  let sum := hashBlocks h (blocks.length / 16) 0 blocks
  addStream (cipher (counterBlock nonce 1)) (ofNat 16 sum)

/-- The greatest length of a text. -/
def maxLength : Nat := Nat.pow 2 36

/-- Encrypts a text and appends the tag. -/
def encrypt? (cipher : BlockCipher) (nonce text : Bytes) : Option Bytes :=
  if maxLength < text.length then none
  else
    let hidden := counterMode cipher nonce 2 text
    some (hidden ++ tag cipher nonce hidden)

/-- Decrypts a text if its tag is right. -/
def decrypt? (cipher : BlockCipher) (nonce sealed : Bytes) : Option Bytes :=
  if sealed.length < 16 ∨ maxLength + 16 < sealed.length then none
  else
    let hidden := sealed.take (sealed.length - 16)
    if sealed.drop (sealed.length - 16) = tag cipher nonce hidden then
      some (counterMode cipher nonce 2 hidden)
    else none

end AttributeRelease.Cipher.Gcm
