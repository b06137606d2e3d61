import AttributeRelease.Cipher.Gcm
import Mathlib.Data.List.Basic

/-!
# Decryption undoes encryption

Adding the same stream twice changes nothing, so counter mode is its own inverse, whatever the block
cipher does.  The tag is a function of the hidden text, and so it is right when nothing was changed.
-/

namespace AttributeRelease.Cipher.Gcm

/-! ## Numbers as bytes -/

theorem length_ofNat (count n : Nat) : (ofNat count n).length = count := by
  induction count generalizing n with
  | zero => rfl
  | succ count ih => rw [ofNat, List.length_append, ih, List.length_singleton]

theorem toNat_append_singleton (bs : Bytes) (b : UInt8) :
    toNat (bs ++ [b]) = 256 * toNat bs + b.toNat := by
  rw [toNat, List.foldl_append]
  rfl

theorem toNat_ofNat (count n : Nat) : toNat (ofNat count n) = n % Nat.pow 256 count := by
  induction count generalizing n with
  | zero => exact (Nat.mod_one n).symm
  | succ count ih =>
      have hbyte : (UInt8.ofNat (n % 256)).toNat = n % 256 :=
        UInt8.toNat_ofNat_of_lt' (Nat.mod_lt n (by decide))
      have hpow : Nat.pow 256 (count + 1) = 256 * Nat.pow 256 count := Nat.pow_succ'
      rw [ofNat, toNat_append_singleton, ih, hbyte, hpow, Nat.mod_mul, Nat.add_comm]

/-! ## Streams -/

theorem length_addStream (stream bs : Bytes) : (addStream stream bs).length = bs.length := by
  fun_induction addStream stream bs with
  | case1 | case2 => rfl
  | case3 k ks b bs ih => rw [List.length_cons, List.length_cons, ih]

theorem addStream_addStream (stream bs : Bytes) : addStream stream (addStream stream bs) = bs := by
  fun_induction addStream stream bs with
  | case1 => rw [addStream]
  | case2 bs hne => rw [addStream.eq_2 bs hne]
  | case3 k ks b bs ih => rw [addStream, ih, UInt8.xor_assoc, UInt8.xor_self, UInt8.xor_zero]

/-- The first block, and the rest under the next counter.  There may be less than a block. -/
theorem counterMode_eq (cipher : BlockCipher) (nonce : Bytes) (counter : Nat) (bs : Bytes) :
    counterMode cipher nonce counter bs =
      addStream (cipher (counterBlock nonce counter)) (bs.take 16) ++
        counterMode cipher nonce (counter + 1) (bs.drop 16) := by
  cases bs with
  | nil => simp [counterMode, addStream]
  | cons b bs => rw [counterMode, List.take_succ_cons, List.drop_succ_cons]

theorem length_counterMode (cipher : BlockCipher) (nonce : Bytes) (counter : Nat) (bs : Bytes) :
    (counterMode cipher nonce counter bs).length = bs.length := by
  fun_induction counterMode cipher nonce counter bs with
  | case1 => rfl
  | case2 counter b bs ih =>
      rw [List.length_append, length_addStream, ih]
      simp only [List.length_cons, List.length_take, List.length_drop]
      omega

/-- Blocks are found again where a whole block was written, or nothing after it. -/
theorem take_drop_append {block rest : Bytes} {size : Nat} (hsize : block.length ≤ size)
    (h : block.length = size ∨ rest = []) :
    (block ++ rest).take size = block ∧ (block ++ rest).drop size = rest := by
  rcases h with rfl | rfl
  · exact ⟨List.take_left, List.drop_left⟩
  · rw [List.append_nil]
    exact ⟨List.take_of_length_le hsize, List.drop_of_length_le hsize⟩

theorem counterMode_counterMode (cipher : BlockCipher) (nonce : Bytes) (counter : Nat)
    (bs : Bytes) :
    counterMode cipher nonce counter (counterMode cipher nonce counter bs) = bs := by
  induction hlength : bs.length using Nat.strongRecOn generalizing counter bs with
  | _ length ih =>
      by_cases hnil : bs = []
      · rw [hnil, counterMode, counterMode]
      have hblock := length_addStream (cipher (counterBlock nonce counter)) (bs.take 16)
      have hrest := length_counterMode cipher nonce (counter + 1) (bs.drop 16)
      have hpos := List.length_pos_iff.mpr hnil
      rw [List.length_take] at hblock
      rw [List.length_drop] at hrest
      have hsplit : (addStream (cipher (counterBlock nonce counter)) (bs.take 16)).length = 16 ∨
          counterMode cipher nonce (counter + 1) (bs.drop 16) = [] := by
        rcases Nat.lt_or_ge bs.length 16 with hshort | hlong
        · exact .inr (List.length_eq_zero_iff.mp (by omega))
        · exact .inl (by omega)
      obtain ⟨htake, hdrop⟩ := take_drop_append (by omega) hsplit
      rw [counterMode_eq, counterMode_eq cipher nonce counter bs, htake, hdrop,
        addStream_addStream, ih _ (by rw [List.length_drop]; omega) _ _ rfl,
        List.take_append_drop]

/-! ## Sealing -/

theorem length_tag (cipher : BlockCipher) (nonce text : Bytes) :
    (tag cipher nonce text).length = 16 := by
  simp only [tag]
  rw [length_addStream, length_ofNat]

theorem encrypt?_eq_some {cipher : BlockCipher} {nonce text sealed : Bytes}
    (h : encrypt? cipher nonce text = some sealed) :
    text.length ≤ maxLength ∧
      sealed = counterMode cipher nonce 2 text ++
        tag cipher nonce (counterMode cipher nonce 2 text) := by
  rw [encrypt?] at h
  split at h
  case isTrue => cases h
  case isFalse hlength => exact ⟨Nat.le_of_not_lt hlength, (Option.some.inj h).symm⟩

/-- What was encrypted is decrypted. -/
theorem decrypt?_of_encrypt? {cipher : BlockCipher} {nonce text sealed : Bytes}
    (h : encrypt? cipher nonce text = some sealed) : decrypt? cipher nonce sealed = some text := by
  obtain ⟨hmax, hsealed⟩ := encrypt?_eq_some h
  have hhidden := length_counterMode cipher nonce 2 text
  have htag := length_tag cipher nonce (counterMode cipher nonce 2 text)
  have hlength : sealed.length = text.length + 16 := by
    rw [hsealed, List.length_append, hhidden, htag]
  have hcut : sealed.length - 16 = (counterMode cipher nonce 2 text).length := by omega
  rw [decrypt?, if_neg (by omega), hcut, hsealed, List.take_left, List.drop_left, if_pos rfl,
    counterMode_counterMode]

end AttributeRelease.Cipher.Gcm
