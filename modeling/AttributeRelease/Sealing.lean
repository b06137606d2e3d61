import AttributeRelease.Cipher.Aes
import AttributeRelease.Cipher.Blake3
import AttributeRelease.Cipher.Gcm
import AttributeRelease.Resolution.Error
import AttributeRelease.Text.Base64
import AttributeRelease.Text.Blank
import AttributeRelease.Text.Utf8

/-!
# Sealed tokens

A text is sealed together with the time until which it may be opened. A token is the unpadded base
64 form of a nonce, the encrypted time and text, and a tag; it opens under the key that it was
sealed with only.
-/

namespace AttributeRelease

open AttributeRelease.Cipher

/-- Why a text cannot be sealed or a token cannot be opened. -/
inductive SealError
  /-- The token's time is over. -/
  | expired
  /-- The token is no base 64 text. -/
  | invalidEncoding
  /-- There is nothing after the nonce. -/
  | tooShort
  /-- The text is too long to be encrypted. -/
  | notEncrypted
  /-- The tag is wrong. -/
  | notDecrypted
  /-- There is no room for a time in what was sealed. -/
  | noExpiry
  /-- What was sealed is no text. -/
  | notText (cause : Text.Utf8Error)
  /-- Any reason that another kind of sealer gives. -/
  | other (reason : String)
deriving DecidableEq, Repr

namespace SealError

/-- The reason, where it is not expiry. -/
def reason : SealError → String
  | expired => "expired"
  | invalidEncoding => "Invalid token encoding: no unpadded base 64 text"
  | tooShort => "Token is too short"
  | notEncrypted => "AES encryption failed: aead::Error"
  | notDecrypted => "AES decryption failed: aead::Error"
  | noExpiry => "Payload is missing its expiry"
  | notText cause => s!"Plaintext is not UTF-8: {cause.message}"
  | other reason => reason

def message : SealError → String
  | expired => "Sealed data has expired"
  | e => s!"Sealing failed: {e.reason}"

/-- The error of a resolution that fails for this reason. -/
def toResolution : SealError → ResolutionError
  | expired => .expiredIdentifier
  | e => .sealing e.reason

end SealError

/-- Twelve bytes that no other token has. -/
structure Nonce where
  bytes : List UInt8
  length_eq : bytes.length = 12 := by simp
deriving DecidableEq

/-- A key that tokens are sealed with, as its round keys. -/
structure SealingKey where
  roundKeys : List (List UInt8)

namespace SealingKey

/-- What keys are derived for. -/
def context : String := "attrflow 2024 transient identifier sealing key"

/-- The key of a secret. -/
def ofSecret (secret : List UInt8) : SealingKey :=
  ⟨Aes.roundKeys (Blake3.deriveKey (Text.encodeUtf8 context) secret)⟩

def cipher (k : SealingKey) : Gcm.BlockCipher := Aes.encryptBlock k.roundKeys

/-- A time in milliseconds as eight bytes, the highest first. -/
def timeBytes (t : Int64) : List UInt8 := Gcm.ofNat 8 t.toUInt64.toNat

/-- The time that eight bytes denote. -/
def timeOfBytes (bs : List UInt8) : Int64 := (UInt64.ofNat (Gcm.toNat bs)).toInt64

/-- Seals a text until a time. -/
def wrap (k : SealingKey) (nonce : Nonce) (plaintext : String) (expiry : Int64) :
    Except SealError String :=
  match Gcm.encrypt? k.cipher nonce.bytes (timeBytes expiry ++ Text.encodeUtf8 plaintext) with
  | none => .error .notEncrypted
  | some hidden => .ok (Text.Base64.unpadded (nonce.bytes ++ hidden))

/-- The text that was sealed, if it was not too short and its time is not over. -/
def openPayload (now : Int) (payload : List UInt8) : Except SealError String :=
  if payload.length < 8 then .error .noExpiry
  else if (timeOfBytes (payload.take 8)).toInt < now then .error .expired
  else
    match Text.decodeUtf8 (payload.drop 8) with
    | .error e => .error (.notText e)
    | .ok plaintext => .ok plaintext

/-- Opens a token, white space around it being passed over. -/
def unwrap (k : SealingKey) (now : Int) (token : String) : Except SealError String :=
  match Text.Base64.unpadded? (Text.trim token) with
  | none => .error .invalidEncoding
  | some bytes =>
    if bytes.length ≤ 12 then .error .tooShort
    else
      match Gcm.decrypt? k.cipher (bytes.take 12) (bytes.drop 12) with
      | none => .error .notDecrypted
      | some payload => openPayload now payload

end SealingKey

/-- The nonce that a number gives. -/
def Nonce.ofNat (n : Nat) : Nonce :=
  ⟨Gcm.ofNat 12 n, by simp [Gcm.ofNat]⟩

end AttributeRelease
