import AttributeRelease.Json.Access
import AttributeRelease.Transient.Basic

/-!
# Sealers that hide nothing

A sealer that puts brackets around texts, so that tokens can be read. It takes note of what it is
asked to seal.
-/

namespace AttributeRelease

/-- A sealer that hides nothing, and why it fails to seal or to open, if it does. -/
structure OpenSealer where
  wrapFault : Option SealError := none
  unwrapFault : Option SealError := none

namespace OpenSealer

variable {σ : Type}

def fault (text : String) : SealError := if text = "expired" then .expired else .other text

def ofDocument (j : Json) : OpenSealer where
  wrapFault := (j.textAt? "wrap_error").map fault
  unwrapFault := (j.textAt? "unwrap_error").map fault

/-- How long a token lives, to the nearest ten seconds. -/
def lifetimeText (now : Int) (expiry : Int64) : String :=
  if expiry.toInt = Int.pow 2 63 - 1 then "max"
  else toString ((expiry.toInt - now + 5000) / 10000 * 10000)

/-- Takes the brackets off. -/
def stripped? (token : List Char) : Option (List Char) :=
  match token with
  | '[' :: rest => if rest.getLast? = some ']' then some rest.dropLast else none
  | _ => none

/-- The sealer in the world; `note` takes note of what is sealed. -/
def sealer (o : OpenSealer) (date : σ → Int × σ) (note : String → σ → σ) : Sealer σ where
  wrap plaintext expiry s :=
    let (now, s) := date s
    let lifetime := lifetimeText now expiry
    let s := note s!"wrap:{plaintext}:{lifetime}" s
    match o.wrapFault with
    | some e => (.error e, s)
    | none => (.ok ("[" ++ plaintext ++ "]"), s)
  unwrap token s :=
    match o.unwrapFault, stripped? token.toList with
    | some e, _ => (.error e, s)
    | none, some plaintext => (.ok (String.ofList plaintext), s)
    | none, none => (.error (.other "not a stub token"), s)

end OpenSealer

end AttributeRelease
