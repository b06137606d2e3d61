import AttributeRelease.Duration
import AttributeRelease.Plugin.Basic
import AttributeRelease.Sealing
import AttributeRelease.Text.Pieces

/-!
# Transient identifiers

An identifier that a provider gives out for a principal and one relying party, and that only the
provider can read: issuer, requester and principal, sealed for some time. When it is presented
again, it must have been issued by and for the parties of the request.
-/

namespace AttributeRelease

/-- Seals texts as tokens, and opens tokens. -/
structure Sealer (σ : Type) where
  /-- Seals a text until a time in milliseconds. -/
  wrap : String → Int64 → σ → Except SealError String × σ
  /-- Opens a token. -/
  unwrap : String → σ → Except SealError String × σ

/-- The sealer of a key, with the nonces and the time of the world. -/
def SealingKey.sealer {σ : Type} (k : SealingKey) (nonce : σ → Nonce × σ) (clock : σ → Int × σ) :
    Sealer σ where
  wrap plaintext expiry s :=
    match nonce s with
    | (n, s) => (k.wrap n plaintext expiry, s)
  unwrap token s :=
    match clock s with
    | (now, s) => (k.unwrap now token, s)

/-- What a transient identifier says. -/
structure TransientId where
  issuer : String
  requester : String
  principal : String
deriving DecidableEq, Repr

namespace TransientId

/-- The text that is sealed. -/
def text (t : TransientId) : String := t.issuer ++ "!" ++ t.requester ++ "!" ++ t.principal

/-- Reads a text with three parts. -/
def ofText (text : String) : Except ResolutionError TransientId :=
  match (Text.pieces '!' text.toList).map String.ofList with
  | [issuer, requester, principal] => .ok ⟨issuer, requester, principal⟩
  | parts => .error (.invalidToken s!"expected 3 components, found {parts.length}")

/-! ## Issuing -/

/-- What is missing in a request is missing in its identifier. -/
def required (what : String) (value : Option String) : Except ResolutionError String :=
  match value with
  | some v => .ok v
  | none => .error (.missingRequestData what)

/-- The identifier for a request. -/
def ofRequest (r : Request) : Except ResolutionError TransientId := do
  let issuer ← required "issuer" r.issuer
  let requester ← required "requester" r.requester
  let principal ← required "principal name" r.principalName
  return ⟨issuer, requester, principal⟩

/-- The time until which an identifier lives, but no later than the last time there is. -/
def expiry (now : Int) (lifetime : Duration) : Int64 :=
  Int64.ofInt (min (now + min (lifetime.millis : Int) (Int.pow 2 63 - 1)) (Int.pow 2 63 - 1))

/-! ## Recognising -/

/-- A part of an identifier agrees with what the request says, if it says something. -/
def agree (part : TransientPart) (decoded : String) (expected : Option String) :
    Except ResolutionError Unit :=
  match expected with
  | some e => if e = decoded then .ok () else .error (.transientIdMismatch part decoded e)
  | none => .ok ()

/-- A part of an identifier agrees with what the request must say. -/
def agreeRequired (part : TransientPart) (decoded : String) (expected : Option String) :
    Except ResolutionError Unit :=
  match expected with
  | some e => agree part decoded (some e)
  | none => .error (.missingRequestData part.label)

/-- Checks that an identifier belongs to the subject and the parties of a request. -/
def belongsTo (t : TransientId) (subject : Subject) (r : Request) :
    Except ResolutionError Unit := do
  agree .nameQualifier t.issuer subject.nameQualifier
  agree .spNameQualifier t.requester subject.spNameQualifier
  agreeRequired .issuer t.issuer r.issuer
  agreeRequired .requester t.requester r.requester

/-- The principal of a text that was presented by a subject. -/
def principalOf (plaintext : String) (subject : Subject) (r : Request) :
    Except ResolutionError String := do
  let t ← ofText plaintext
  t.belongsTo subject r
  return t.principal

end TransientId

end AttributeRelease
