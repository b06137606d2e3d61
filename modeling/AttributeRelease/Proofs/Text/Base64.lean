import AttributeRelease.Proofs.Text.Blank
import AttributeRelease.Text.Base64

/-!
# Base 64 reads back what it writes

Every six bit number has a character of its own, and the numbers hold all bits of the bytes.  White
space around them can be passed over, since none of these characters is blank.
-/

namespace AttributeRelease.Text

namespace Base64

theorem value?_char : ∀ n < 64, urlSafe.value? (urlSafe.char n) = some n := by decide

theorem isBlank_char : ∀ n < 64, isBlank (urlSafe.char n) = false := by decide

theorem sextets_lt (bytes : List UInt8) : ∀ n ∈ sextets bytes, n < 64 := by
  fun_induction sextets bytes with
  | case1 a b c rest n ih =>
      have ha := a.toNat_lt
      have hb := b.toNat_lt
      have hc := c.toNat_lt
      intro m hm
      simp only [List.mem_cons] at hm
      rcases hm with rfl | rfl | rfl | rfl | hm
      · omega
      · omega
      · omega
      · omega
      · exact ih m hm
  | case2 a b n =>
      have ha := a.toNat_lt
      have hb := b.toNat_lt
      intro m hm
      simp only [List.mem_cons, List.not_mem_nil, or_false] at hm
      omega
  | case3 a =>
      have ha := a.toNat_lt
      intro m hm
      simp only [List.mem_cons, List.not_mem_nil, or_false] at hm
      omega
  | case4 => simp

theorem octets?_sextets (bytes : List UInt8) : octets? (sextets bytes) = some bytes := by
  fun_induction sextets bytes with
  | case1 a b c rest n ih =>
      have ha := a.toNat_lt
      have hb := b.toNat_lt
      have hc := c.toNat_lt
      have hn : n / 262144 * 262144 + n / 4096 % 64 * 4096 + n / 64 % 64 * 64 + n % 64 = n := by
        omega
      have ha' : n / 65536 = a.toNat := by omega
      have hb' : n / 256 % 256 = b.toNat := by omega
      have hc' : n % 256 = c.toNat := by omega
      simp only [octets?, ih, Option.map_some, hn, ha', hb', hc', UInt8.ofNat_toNat]
  | case2 a b n =>
      have ha := a.toNat_lt
      have hb := b.toNat_lt
      have hn : n / 4096 * 4096 + n / 64 % 64 * 64 + n % 64 = n := by omega
      have ha' : n / 1024 = a.toNat := by omega
      have hb' : n / 4 % 256 = b.toNat := by omega
      have hlow : n % 4 = 0 := by omega
      simp only [octets?, hn, ha', hb', hlow, if_pos, UInt8.ofNat_toNat]
  | case3 a =>
      have ha := a.toNat_lt
      have hn : a.toNat / 4 * 4 + a.toNat % 4 * 16 / 16 = a.toNat := by omega
      have hlow : a.toNat % 4 * 16 % 16 = 0 := by omega
      simp only [octets?, hn, hlow, if_pos, UInt8.ofNat_toNat]
  | case4 => rfl

/-- What was written reads back. -/
theorem unpadded?_unpadded (bytes : List UInt8) : unpadded? (unpadded bytes) = some bytes := by
  have hvalues : ∀ ns : List Nat, (∀ n ∈ ns, n < 64) →
      (ns.map urlSafe.char).mapM urlSafe.value? = some ns := by
    intro ns hns
    induction ns with
    | nil => rfl
    | cons n rest ih =>
        have hrest := ih fun m hm => hns m (List.mem_cons_of_mem n hm)
        rw [List.map_cons, List.mapM_cons, value?_char n (hns n List.mem_cons_self), hrest]
        rfl
  rw [unpadded?, unpadded, String.toList_ofList, decode?, encode,
    hvalues _ (sextets_lt bytes)]
  exact octets?_sextets bytes

theorem not_blank_of_mem_encode {bytes : List UInt8} {c : Char} (hc : c ∈ encode urlSafe bytes) :
    isBlank c = false := by
  obtain ⟨n, hn, rfl⟩ := List.mem_map.mp hc
  exact isBlank_char n (sextets_lt bytes n hn)

/-- There is no white space to be trimmed. -/
theorem trim_unpadded (bytes : List UInt8) : trim (unpadded bytes) = unpadded bytes := by
  have htrim := trimChars_of_not_blank fun c (hc : c ∈ encode urlSafe bytes) =>
    not_blank_of_mem_encode hc
  rw [trim, unpadded, String.toList_ofList, htrim]

end Base64

end AttributeRelease.Text
