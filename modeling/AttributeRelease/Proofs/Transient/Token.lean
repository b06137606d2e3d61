import AttributeRelease.Proofs.Cipher.Gcm
import AttributeRelease.Proofs.Text.Base64
import AttributeRelease.Proofs.Text.Utf8
import AttributeRelease.Transient.Basic

/-!
# Tokens open until their time is over

A token of a key holds a time and a text.  Opened under the same key it gives the text back, unless
it is opened after that time: each layer of the token undoes what the layer before it did.
-/

namespace AttributeRelease

open AttributeRelease.Cipher

namespace SealingKey

theorem length_timeBytes (t : Int64) : (timeBytes t).length = 8 := Gcm.length_ofNat 8 _

theorem timeOfBytes_timeBytes (t : Int64) : timeOfBytes (timeBytes t) = t := by
  have hlt : t.toUInt64.toNat < Nat.pow 256 8 := t.toUInt64.toNat_lt
  rw [timeOfBytes, timeBytes, Gcm.toNat_ofNat, Nat.mod_eq_of_lt hlt, UInt64.ofNat_toNat,
    Int64.toInt64_toUInt64]

theorem openPayload_of_expired {now : Int} {expiry : Int64} (h : expiry.toInt < now)
    (text : List UInt8) : openPayload now (timeBytes expiry ++ text) = .error .expired := by
  have htake : (timeBytes expiry ++ text).take 8 = timeBytes expiry :=
    List.take_left' (length_timeBytes expiry)
  have hlength : ¬ (timeBytes expiry ++ text).length < 8 := by
    rw [List.length_append, length_timeBytes]
    omega
  rw [openPayload, if_neg hlength, htake, timeOfBytes_timeBytes, if_pos h]

theorem openPayload_of_le {now : Int} {expiry : Int64} (h : now ≤ expiry.toInt) (text : String) :
    openPayload now (timeBytes expiry ++ Text.encodeUtf8 text) = .ok text := by
  have htake : (timeBytes expiry ++ Text.encodeUtf8 text).take 8 = timeBytes expiry :=
    List.take_left' (length_timeBytes expiry)
  have hdrop : (timeBytes expiry ++ Text.encodeUtf8 text).drop 8 = Text.encodeUtf8 text :=
    List.drop_left' (length_timeBytes expiry)
  have hlength : ¬ (timeBytes expiry ++ Text.encodeUtf8 text).length < 8 := by
    rw [List.length_append, length_timeBytes]
    omega
  rw [openPayload, if_neg hlength, htake, timeOfBytes_timeBytes, if_neg (by omega), hdrop,
    Text.decodeUtf8_encodeUtf8]

/-- A text that is not too long can be sealed. -/
theorem exists_wrap (k : SealingKey) (nonce : Nonce) {text : String} (expiry : Int64)
    (h : (Text.encodeUtf8 text).length + 8 ≤ Gcm.maxLength) :
    ∃ token, k.wrap nonce text expiry = .ok token := by
  have hlength : ¬ Gcm.maxLength < (timeBytes expiry ++ Text.encodeUtf8 text).length := by
    rw [List.length_append, length_timeBytes]
    omega
  rw [wrap, Gcm.encrypt?, if_neg hlength]
  exact ⟨_, rfl⟩

/-- What is read from a token is what was sealed in it. -/
theorem unwrap_of_wrap {k : SealingKey} {nonce : Nonce} {text token : String} {expiry : Int64}
    (h : k.wrap nonce text expiry = .ok token) (now : Int) :
    k.unwrap now token = openPayload now (timeBytes expiry ++ Text.encodeUtf8 text) := by
  rw [wrap] at h
  split at h
  case h_1 => cases h
  case h_2 hidden hencrypt =>
    cases h
    have hmore := (Gcm.encrypt?_eq_some hencrypt).2
    have hlength : 0 < hidden.length := by
      rw [hmore, List.length_append, Gcm.length_tag]
      omega
    have hlong : ¬ (nonce.bytes ++ hidden).length ≤ 12 := by
      rw [List.length_append, nonce.length_eq]
      omega
    rw [unwrap, Text.Base64.trim_unpadded, Text.Base64.unpadded?_unpadded]
    dsimp only
    rw [if_neg hlong, List.take_left' nonce.length_eq, List.drop_left' nonce.length_eq,
      Gcm.decrypt?_of_encrypt? hencrypt]

/-- White space around a token makes no difference. -/
theorem unwrap_enclosed {before after : String}
    (hbefore : ∀ c ∈ before.toList, Text.isBlank c = true)
    (hafter : ∀ c ∈ after.toList, Text.isBlank c = true) (k : SealingKey) (now : Int)
    (token : String) : k.unwrap now (before ++ token ++ after) = k.unwrap now token := by
  rw [unwrap, unwrap, Text.trim_enclosed hbefore hafter]

/-- A text that is not too long has a token, whatever the key, the nonce and the time until which it
may be opened.  The token opens to that text until its time is over, and is expired from then on,
also with white space around it. -/
theorem token_opens_until_expiry (k : SealingKey) (nonce : Nonce) {text : String} (expiry : Int64)
    (hlength : (Text.encodeUtf8 text).length + 8 ≤ Gcm.maxLength) :
    ∃ token, k.wrap nonce text expiry = .ok token ∧
      ∀ before after : String, (∀ c ∈ before.toList, Text.isBlank c = true) →
        (∀ c ∈ after.toList, Text.isBlank c = true) → ∀ now : Int,
          k.unwrap now (before ++ token ++ after) =
            if now ≤ expiry.toInt then .ok text else .error .expired := by
  obtain ⟨token, hwrap⟩ := exists_wrap k nonce expiry hlength
  refine ⟨token, hwrap, fun before after hbefore hafter now => ?_⟩
  rw [unwrap_enclosed hbefore hafter, unwrap_of_wrap hwrap]
  by_cases hnow : now ≤ expiry.toInt
  · rw [if_pos hnow, openPayload_of_le hnow]
  · rw [if_neg hnow, openPayload_of_expired (Int.not_le.mp hnow)]

/-- A token of a time before the year 1970 opens in its last millisecond, and not in the next. -/
theorem token_opens_until_expiry_jdoe :
    (Text.encodeUtf8 "jdoe").length + 8 ≤ Gcm.maxLength ∧
    ∃ token, (ofSecret [118]).wrap (.ofNat 1) "jdoe" (-1) = .ok token ∧
      (ofSecret [118]).unwrap (-1) (" " ++ token ++ "\r\n") = .ok "jdoe" ∧
      (ofSecret [118]).unwrap 0 (" " ++ token ++ "\r\n") = .error .expired := by
  have hlength : (Text.encodeUtf8 "jdoe").length + 8 ≤ Gcm.maxLength := by decide
  obtain ⟨token, hwrap, hunwrap⟩ :=
    token_opens_until_expiry (ofSecret [118]) (.ofNat 1) (-1) hlength
  have hopen := hunwrap " " "\r\n" (List.all_eq_true.mp rfl) (List.all_eq_true.mp rfl)
  exact ⟨hlength, token, hwrap, hopen (-1), hopen 0⟩

end SealingKey

/-! ## Sealers -/

/-- A sealer keeps the times of its tokens: a token opens to the text that was sealed in it until
its time is over, and is expired from then on. -/
structure Sealer.Keeps {σ : Type} (sealer : Sealer σ) (clock : σ → Int × σ) : Prop where
  opens : ∀ {text token : String} {expiry : Int64} {issued issued' : σ},
    sealer.wrap text expiry issued = (.ok token, issued') →
      ∀ s : σ, (clock s).1 ≤ expiry.toInt → (sealer.unwrap token s).1 = .ok text
  expires : ∀ {text token : String} {expiry : Int64} {issued issued' : σ},
    sealer.wrap text expiry issued = (.ok token, issued') →
      ∀ s : σ, expiry.toInt < (clock s).1 → (sealer.unwrap token s).1 = .error .expired

namespace SealingKey

variable {σ : Type} (k : SealingKey) (nonce : σ → Nonce × σ) (clock : σ → Int × σ)

theorem sealer_wrap (text : String) (expiry : Int64) (s : σ) :
    (k.sealer nonce clock).wrap text expiry s =
      (k.wrap (nonce s).1 text expiry, (nonce s).2) := rfl

theorem sealer_unwrap (token : String) (s : σ) :
    (k.sealer nonce clock).unwrap token s = (k.unwrap (clock s).1 token, (clock s).2) := rfl

/-- The sealer of a key keeps times, whatever nonces it is given. -/
theorem sealer_keeps : (k.sealer nonce clock).Keeps clock := by
  constructor
  case opens =>
    intro text token expiry issued issued' h s hnow
    rw [sealer_wrap, Prod.mk.injEq] at h
    rw [sealer_unwrap, unwrap_of_wrap h.1, openPayload_of_le hnow]
  case expires =>
    intro text token expiry issued issued' h s hnow
    rw [sealer_wrap, Prod.mk.injEq] at h
    rw [sealer_unwrap, unwrap_of_wrap h.1, openPayload_of_expired hnow]

end SealingKey

end AttributeRelease
