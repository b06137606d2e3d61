import AttributeRelease.Text.Utf8
import Mathlib.Data.List.Basic

/-!
# UTF-8 reads back what it writes

The first byte of a written character tells how many bytes follow it and which of them are allowed
next.  The numbers that no character has, between 0xD800 and 0xDFFF, are those that the second byte
after 0xED may not lead to.
-/

namespace AttributeRelease.Text

theorem utf8Tail_cons {n low high seen code b : Nat} {rest : List UInt8} (hb : b < 256)
    (hlow : low ≤ b) (hhigh : b ≤ high) :
    utf8Tail (n + 1) low high seen code (UInt8.ofNat b :: rest) =
      utf8Tail n 0x80 0xBF (seen + 1) (64 * code + (b - 0x80)) rest := by
  rw [utf8Tail, UInt8.toNat_ofNat_of_lt' hb, if_pos ⟨hlow, hhigh⟩]

/-- The last byte of a character. -/
theorem utf8Tail_last {low high seen code b : Nat} {rest : List UInt8} (hb : b < 256)
    (hlow : low ≤ b) (hhigh : b ≤ high) :
    utf8Tail 1 low high seen code (UInt8.ofNat b :: rest) =
      .char (64 * code + (b - 0x80)) rest := by
  rw [utf8Tail_cons hb hlow hhigh, utf8Tail]

/-- What the bytes of a character tell the reader: the form that the first byte stands for, and that
the other bytes complete the character. -/
structure Utf8Written (code : Nat) (bytes : List UInt8) (lead : Nat) (tail : List UInt8)
    (low high bits : Nat) : Prop where
  bytes_eq : bytes = UInt8.ofNat lead :: tail
  lead_lt : lead < 256
  lead_eq : utf8Lead? lead = some (tail.length, low, high, bits)
  tail_eq : ∀ rest, utf8Tail tail.length low high 1 bits (tail ++ rest) = .char code rest

theorem utf8Written_two {v : Nat} (hlow : 127 < v) (hhigh : v ≤ 2047) :
    Utf8Written v [UInt8.ofNat (v / 64 % 32 + 192), UInt8.ofNat (v % 64 + 128)]
      (v / 64 % 32 + 192) [UInt8.ofNat (v % 64 + 128)] 0x80 0xBF (v / 64) := by
  refine ⟨rfl, by omega, ?_, fun rest => ?_⟩
  · have hbits : v / 64 % 32 + 192 - 0xC0 = v / 64 := by omega
    rw [utf8Lead?, if_neg (by omega), if_pos (by omega), hbits]
    rfl
  · have hv : 64 * (v / 64) + (v % 64 + 128 - 0x80) = v := by omega
    exact (utf8Tail_last (by omega) (by omega) (by omega)).trans (by rw [hv]; rfl)

/-- The lead of three bytes: the least second byte is higher after the first lead, and the greatest
one is lower where no character is. -/
theorem utf8Lead?_three {v : Nat} (hlow : 2047 < v) (hhigh : v ≤ 65535)
    (hvalid : v < 0xD800 ∨ 0xDFFF < v) :
    ∃ low high, utf8Lead? (v / 4096 % 16 + 224) = some (2, low, high, v / 4096) ∧
      low ≤ v / 64 % 64 + 128 ∧ v / 64 % 64 + 128 ≤ high := by
  have hlead : v / 4096 % 16 = v / 4096 := by omega
  rw [hlead, utf8Lead?, if_neg (by omega), if_neg (by omega)]
  by_cases hfirst : v / 4096 = 0
  · exact ⟨0xA0, 0xBF, by rw [hfirst]; rfl, by omega, by omega⟩
  rw [if_neg (by omega)]
  by_cases hgap : v / 4096 = 13
  · exact ⟨0x80, 0x9F, by rw [hgap]; rfl, by omega, by omega⟩
  · have hbits : v / 4096 + 224 - 0xE0 = v / 4096 := by omega
    rw [if_neg (by omega), if_pos (by omega), hbits]
    exact ⟨0x80, 0xBF, rfl, by omega, by omega⟩

theorem utf8Written_three {v : Nat} (hlow : 2047 < v) (hhigh : v ≤ 65535)
    (hvalid : v < 0xD800 ∨ 0xDFFF < v) :
    ∃ low high, Utf8Written v
      [UInt8.ofNat (v / 4096 % 16 + 224), UInt8.ofNat (v / 64 % 64 + 128),
        UInt8.ofNat (v % 64 + 128)]
      (v / 4096 % 16 + 224) [UInt8.ofNat (v / 64 % 64 + 128), UInt8.ofNat (v % 64 + 128)]
      low high (v / 4096) := by
  obtain ⟨low, high, hlead, hsecond, hsecond'⟩ := utf8Lead?_three hlow hhigh hvalid
  refine ⟨low, high, rfl, by omega, hlead, fun rest => ?_⟩
  have hv : 64 * (64 * (v / 4096) + (v / 64 % 64 + 128 - 0x80)) + (v % 64 + 128 - 0x80) = v := by
    omega
  refine (utf8Tail_cons (by omega) hsecond hsecond').trans ?_
  exact (utf8Tail_last (by omega) (by omega) (by omega)).trans (by rw [hv]; rfl)

theorem utf8Lead?_four {v : Nat} (hlow : 65535 < v) (hhigh : v < 0x110000) :
    ∃ low high, utf8Lead? (v / 262144 % 8 + 240) = some (3, low, high, v / 262144) ∧
      low ≤ v / 4096 % 64 + 128 ∧ v / 4096 % 64 + 128 ≤ high := by
  have hlead : v / 262144 % 8 = v / 262144 := by omega
  rw [hlead, utf8Lead?, if_neg (by omega), if_neg (by omega), if_neg (by omega),
    if_neg (by omega), if_neg (by omega)]
  by_cases hfirst : v / 262144 = 0
  · exact ⟨0x90, 0xBF, by rw [hfirst]; rfl, by omega, by omega⟩
  rw [if_neg (by omega)]
  by_cases hend : v / 262144 = 4
  · exact ⟨0x80, 0x8F, by rw [hend]; rfl, by omega, by omega⟩
  · have hbits : v / 262144 + 240 - 0xF0 = v / 262144 := by omega
    rw [if_pos (by omega), hbits]
    exact ⟨0x80, 0xBF, rfl, by omega, by omega⟩

theorem utf8Written_four {v : Nat} (hlow : 65535 < v) (hhigh : v < 0x110000) :
    ∃ low high, Utf8Written v
      [UInt8.ofNat (v / 262144 % 8 + 240), UInt8.ofNat (v / 4096 % 64 + 128),
        UInt8.ofNat (v / 64 % 64 + 128), UInt8.ofNat (v % 64 + 128)]
      (v / 262144 % 8 + 240)
      [UInt8.ofNat (v / 4096 % 64 + 128), UInt8.ofNat (v / 64 % 64 + 128),
        UInt8.ofNat (v % 64 + 128)]
      low high (v / 262144) := by
  obtain ⟨low, high, hlead, hsecond, hsecond'⟩ := utf8Lead?_four hlow hhigh
  refine ⟨low, high, rfl, by omega, hlead, fun rest => ?_⟩
  have hv : 64 * (64 * (64 * (v / 262144) + (v / 4096 % 64 + 128 - 0x80)) +
      (v / 64 % 64 + 128 - 0x80)) + (v % 64 + 128 - 0x80) = v := by
    omega
  refine (utf8Tail_cons (by omega) hsecond hsecond').trans ?_
  refine (utf8Tail_cons (by omega) (by omega) (by omega)).trans ?_
  exact (utf8Tail_last (by omega) (by omega) (by omega)).trans (by rw [hv]; rfl)

theorem exists_utf8Written (c : Char) :
    ∃ lead tail low high bits,
      Utf8Written c.val.toNat (String.utf8EncodeChar c) lead tail low high bits := by
  have hvalid : c.val.toNat < 0xD800 ∨ 0xDFFF < c.val.toNat ∧ c.val.toNat < 0x110000 := c.valid
  unfold String.utf8EncodeChar
  by_cases hone : c.val.toNat ≤ 127
  · have hlead : utf8Lead? c.val.toNat = some (0, 0, 0, c.val.toNat) := by
      rw [utf8Lead?, if_pos (by omega)]
    rw [if_pos hone]
    exact ⟨_, _, _, _, _, rfl, by omega, hlead, fun _ => rfl⟩
  rw [if_neg hone]
  by_cases htwo : c.val.toNat ≤ 2047
  · rw [if_pos htwo]
    exact ⟨_, _, _, _, _, utf8Written_two (by omega) htwo⟩
  rw [if_neg htwo]
  by_cases hthree : c.val.toNat ≤ 65535
  · obtain ⟨low, high, hwritten⟩ := utf8Written_three (by omega) hthree (by omega)
    rw [if_pos hthree]
    exact ⟨_, _, _, _, _, hwritten⟩
  · obtain ⟨low, high, hwritten⟩ := utf8Written_four (v := c.val.toNat) (by omega) (by omega)
    rw [if_neg hthree]
    exact ⟨_, _, _, _, _, hwritten⟩

/-- A character that was written is the first that is read. -/
theorem decodeUtf8From_char (c : Char) (index : Nat) (rest : List UInt8) :
    ∃ index', decodeUtf8From index (String.utf8EncodeChar c ++ rest) =
      (decodeUtf8From index' rest).map (c :: ·) := by
  obtain ⟨lead, tail, low, high, bits, hwritten⟩ := exists_utf8Written c
  have hlead := hwritten.lead_eq
  have htail := hwritten.tail_eq rest
  rw [← UInt8.toNat_ofNat_of_lt' hwritten.lead_lt] at hlead
  refine ⟨index + tail.length + 1, ?_⟩
  rw [hwritten.bytes_eq, List.cons_append, decodeUtf8From, hlead]
  dsimp only
  split
  case h_1 hended => rw [htail] at hended; cases hended
  case h_2 hwrong => rw [htail] at hwrong; cases hwrong
  case h_3 code rest' hchar =>
    rw [htail] at hchar
    cases hchar
    exact congrArg (fun d => (decodeUtf8From _ rest).map (d :: ·)) (Char.ofNat_toNat c)

theorem decodeUtf8From_flatMap (cs : List Char) (index : Nat) :
    decodeUtf8From index (cs.flatMap String.utf8EncodeChar) = .ok cs := by
  induction cs generalizing index with
  | nil => rw [List.flatMap_nil, decodeUtf8From]
  | cons c rest ih =>
      obtain ⟨index', hchar⟩ :=
        decodeUtf8From_char c index (rest.flatMap String.utf8EncodeChar)
      rw [List.flatMap_cons, hchar, ih]
      rfl

theorem encodeUtf8_eq (s : String) : encodeUtf8 s = s.toList.flatMap String.utf8EncodeChar := by
  have h : (String.ofList s.toList).toByteArray = s.toList.utf8Encode := String.toByteArray_ofList
  rw [String.ofList_toList] at h
  change s.toByteArray.data.toList = _
  rw [h]
  exact List.toList_data_toByteArray

/-- What was written reads back. -/
theorem decodeUtf8_encodeUtf8 (s : String) : decodeUtf8 (encodeUtf8 s) = .ok s := by
  rw [decodeUtf8, encodeUtf8_eq, decodeUtf8From_flatMap]
  exact congrArg Except.ok String.ofList_toList

end AttributeRelease.Text
