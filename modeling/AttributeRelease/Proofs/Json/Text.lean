import AttributeRelease.Json.Parser
import AttributeRelease.Proofs.Number.Decimal

/-!
# Texts of documents read back

A string is written one character at a time, and each of the forms that a character is written in is
read as that character.  A document is read back from its text whatever stands behind it, provided
that this cannot go on with a number; so parts are read back before what ends them, and the texts of
arrays and objects follow from those of their parts.

Numbers with a fraction are left out here, and so are documents in which something denotes nothing.
-/

namespace AttributeRelease.Json

open AttributeRelease.Number (isDigit spanDigits natOfDigits)

/-! ## Strings -/

theorem stringBody?_cons {c : Char} (hquote : c ≠ '"') (hback : c ≠ '\\')
    (hcontrol : ¬ c.toNat < 32) (rest : List Char) :
    stringBody? (c :: rest) = before c (stringBody? rest) := by
  rw [stringBody?.eq_6 c rest hquote (fun _ _ _ _ _ _ _ _ _ h => absurd h hback)
    (fun _ _ _ _ _ h => absurd h hback) (fun _ _ h => absurd h hback)]
  exact if_neg (not_or.mpr ⟨hback, hcontrol⟩)

theorem stringBody?_short {c d : Char} (hshort : shortEscape? d = some c) (rest : List Char) :
    stringBody? ('\\' :: d :: rest) = before c (stringBody? rest) := by
  have hd : d ≠ 'u' := by
    rintro rfl
    cases hshort
  rw [stringBody?.eq_5 d rest (fun _ _ _ _ _ _ _ _ _ h => absurd h hd)
    (fun _ _ _ _ _ h => absurd h hd), hshort]

/-- An escape below the surrogates stands for its character, whether another escape follows or
not. -/
theorem stringBody?_unicode {a b c d : Char} {n : Nat} (hhex : hex4? a b c d = some n)
    (hn : n < 0xD800) (rest : List Char) :
    stringBody? ('\\' :: 'u' :: a :: b :: c :: d :: rest) =
      before (Char.ofNat n) (stringBody? rest) := by
  by_cases hescape : ∃ e f g h more, rest = '\\' :: 'u' :: e :: f :: g :: h :: more
  · obtain ⟨e, f, g, h, more, rfl⟩ := hescape
    simp only [stringBody?.eq_3, hhex]
    rw [if_neg (by omega), if_neg (by omega)]
  · have hother : ∀ e f g h more, rest = '\\' :: 'u' :: e :: f :: g :: h :: more → False :=
      fun e f g h more hrest => hescape ⟨e, f, g, h, more, hrest⟩
    simp only [stringBody?.eq_4 a b c d rest hother, hhex]
    rw [if_neg (by omega)]

theorem hex4?_hexPair : ∀ n < 32,
    hex4? '0' '0' ((hexPair n).headD '0') ((hexPair n).getLastD '0') = some n := by decide

theorem stringBody?_control {c : Char} (hc : c.toNat < 32) (rest : List Char) :
    stringBody? ('\\' :: 'u' :: '0' :: '0' :: hexPair c.toNat ++ rest) =
      before c (stringBody? rest) := by
  have hread := stringBody?_unicode (hex4?_hexPair c.toNat hc) (by omega) rest
  rw [Char.ofNat_toNat] at hread
  exact hread

/-- A character is written after a backslash, as its number, or as it is. -/
theorem escapeChar_cases (c : Char) :
    (∃ d, shortEscape? d = some c ∧ escapeChar c = ['\\', d]) ∨
    (c.toNat < 32 ∧ escapeChar c = '\\' :: 'u' :: '0' :: '0' :: hexPair c.toNat) ∨
    (c ≠ '"' ∧ c ≠ '\\' ∧ ¬ c.toNat < 32 ∧ escapeChar c = [c]) := by
  unfold escapeChar
  split_ifs with hquote hback hbell hfeed hline hreturn htab hcontrol
  · exact .inl ⟨'"', by rw [hquote]; rfl, rfl⟩
  · exact .inl ⟨'\\', by rw [hback]; rfl, rfl⟩
  · exact .inl ⟨'b', by rw [hbell]; rfl, rfl⟩
  · exact .inl ⟨'f', by rw [hfeed]; rfl, rfl⟩
  · exact .inl ⟨'n', by rw [hline]; rfl, rfl⟩
  · exact .inl ⟨'r', by rw [hreturn]; rfl, rfl⟩
  · exact .inl ⟨'t', by rw [htab]; rfl, rfl⟩
  · exact .inr (.inl ⟨hcontrol, rfl⟩)
  · exact .inr (.inr ⟨hquote, hback, hcontrol, rfl⟩)

theorem stringBody?_escapeChar (c : Char) (rest : List Char) :
    stringBody? (escapeChar c ++ rest) = before c (stringBody? rest) := by
  rcases escapeChar_cases c with ⟨d, hshort, hchars⟩ | ⟨hcontrol, hchars⟩ |
    ⟨hquote, hback, hcontrol, hchars⟩
  · rw [hchars]
    exact stringBody?_short hshort rest
  · rw [hchars]
    exact stringBody?_control hcontrol rest
  · rw [hchars]
    exact stringBody?_cons hquote hback hcontrol rest

/-- The characters of a string read back up to the closing quote. -/
theorem stringBody?_flatMap_escapeChar (cs rest : List Char) :
    stringBody? (cs.flatMap escapeChar ++ '"' :: rest) = some (some cs, rest) := by
  induction cs with
  | nil => rfl
  | cons c cs ih =>
      rw [List.flatMap_cons, List.append_assoc, stringBody?_escapeChar, ih]
      rfl

theorem stringChars_append (s : String) (rest : List Char) :
    stringChars s ++ rest = '"' :: (s.toList.flatMap escapeChar ++ '"' :: rest) := by
  rw [stringChars, List.cons_append, List.cons_append, List.append_assoc, List.singleton_append]

/-! ## Numbers -/

theorem le_natOfDigits (n : Nat) (cs : List Char) : n ≤ natOfDigits n cs := by
  induction cs generalizing n with
  | nil => exact Nat.le_refl n
  | cons c rest ih =>
      have hrest := ih (10 * n + (Number.digit? c).getD 0)
      rw [natOfDigits, List.foldl_cons]
      rw [natOfDigits] at hrest
      omega

/-- Digits of a number below `2 ^ 64` all fit. -/
theorem fitDigits_of_lt {n : Nat} {cs : List Char} (h : natOfDigits n cs < Nat.pow 2 64) :
    fitDigits n cs = (natOfDigits n cs, []) := by
  induction cs generalizing n with
  | nil => rfl
  | cons c rest ih =>
      have hnext : natOfDigits n (c :: rest) =
          natOfDigits (10 * n + (Number.digit? c).getD 0) rest := rfl
      have hle := le_natOfDigits (10 * n + (Number.digit? c).getD 0) rest
      rw [hnext] at h ⊢
      rw [fitDigits, if_pos (Nat.lt_of_le_of_lt hle h), ih h]

/-- What may stand behind a document in a text: nothing, or what ends a part of another one. -/
def Ends (rest : List Char) : Prop := ∀ c ∈ rest.head?, c = ',' ∨ c = ']' ∨ c = '\x7d'

theorem ends_nil : Ends [] := fun _ h => nomatch h

theorem ends_cons {c : Char} (hc : c = ',' ∨ c = ']' ∨ c = '\x7d') (rest : List Char) :
    Ends (c :: rest) := by
  intro d hd
  rw [List.head?_cons, Option.mem_some_iff] at hd
  exact hd ▸ hc

/-- No number goes on with what ends a part. -/
theorem Ends.not_number {rest : List Char} (h : Ends rest) :
    (∀ c ∈ rest.head?, isDigit c = false) ∧ fractionPart? rest = some (none, rest) ∧
      exponentPart? rest = some (none, rest) := by
  cases rest with
  | nil => exact ⟨fun _ h => (nomatch h), rfl, rfl⟩
  | cons c more =>
      rcases h c rfl with rfl | rfl | rfl
      all_goals exact ⟨fun _ hd => Option.mem_some_iff.mp hd ▸ by decide, rfl, rfl⟩

theorem unsignedNumber?_toDigits (negative : Bool) {n : Nat} (hn : n < Nat.pow 2 64)
    {rest : List Char} (hrest : Ends rest) :
    unsignedNumber? negative (Nat.toDigits 10 n ++ rest) = some (wholeNumber negative n, rest) := by
  obtain ⟨hdigit, hfraction, hexponent⟩ := hrest.not_number
  have hspan := Number.spanDigits_append (Number.isDigit_of_mem_toDigits n) hdigit
  have hwhole : ¬ (Nat.toDigits 10 n = [] ∨
      (1 < (Nat.toDigits 10 n).length ∧ (Nat.toDigits 10 n).head? = some '0')) := by
    rintro (hnil | ⟨hlong, hzero⟩)
    · exact Nat.toDigits_ne_nil hnil
    · rw [Number.eq_zero_of_head?_toDigits hzero] at hlong
      exact absurd hlong (by decide)
  have hfit : fitDigits 0 (Nat.toDigits 10 n) = (n, []) := by
    rw [fitDigits_of_lt (by rwa [Number.natOfDigits_toDigits]), Number.natOfDigits_toDigits]
  have hnumber : numberOf negative (Nat.toDigits 10 n) none none = wholeNumber negative n := by
    simp only [numberOf, hfit]
  simp only [unsignedNumber?, hspan, if_neg hwhole, hfraction, hexponent, hnumber, bind_pure_comp,
    Option.map_eq_map, Option.bind_eq_bind, Option.bind_some, Option.map_some]

theorem ne_of_begins {c d : Char} (hc : isDigit c = true ∨ c = '-') (hdigit : isDigit d = false)
    (hminus : d ≠ '-') : c ≠ d := by
  rintro rfl
  rcases hc with hc | hc
  · exact absurd (hc.symm.trans hdigit) (by decide)
  · exact hminus hc

/-- What a number begins with is no white space. -/
theorem isGap_of_begins {c : Char} (hc : isDigit c = true ∨ c = '-') : isGap c = false := by
  have hne {d : Char} (hdigit : isDigit d = false) (hminus : d ≠ '-') : c ≠ d :=
    ne_of_begins hc hdigit hminus
  simp only [isGap, Bool.or_eq_false_iff, beq_eq_false_iff_ne]
  exact ⟨⟨⟨hne (by decide) (by decide), hne (by decide) (by decide)⟩,
    hne (by decide) (by decide)⟩, hne (by decide) (by decide)⟩

theorem number?_natural (n : UInt64) {rest : List Char} (hrest : Ends rest) :
    number? (Number.chars (.natural n) ++ rest) = some (.number (.natural n), rest) := by
  obtain ⟨c, cs, hcons, hc⟩ := Number.toDigits_eq_cons n.toNat
  have hunsigned := unsignedNumber?_toDigits false n.toNat_lt hrest
  have hwhole : wholeNumber false n.toNat = .number (.natural n) := by
    rw [wholeNumber, UInt64.ofNat_toNat]
    rfl
  rw [hwhole, hcons] at hunsigned
  have hminus : ∀ more, c :: (cs ++ rest) = '-' :: more → False := by
    rintro more heq
    rw [(List.cons.inj heq).1] at hc
    exact absurd hc (by decide)
  rw [Number.chars, hcons, List.cons_append, number?.eq_2 _ hminus]
  exact hunsigned

theorem number?_negative {n : Int64} (hn : n.toInt < 0) {rest : List Char} (hrest : Ends rest) :
    number? (Number.chars (.negative n) ++ rest) = some (.number (.negative n), rest) := by
  have hle := n.le_toInt
  have hsize : n.toInt.natAbs ≤ Nat.pow 2 63 := by
    rw [show Nat.pow 2 63 = 9223372036854775808 by decide]
    omega
  have hunsigned := unsignedNumber?_toDigits true (Nat.lt_of_le_of_lt hsize (by decide)) hrest
  have hvalue : -(n.toInt.natAbs : Int) = n.toInt := by omega
  have hwhole : wholeNumber true n.toInt.natAbs = .number (.negative n) := by
    rw [wholeNumber, if_neg (by decide), if_pos ⟨by omega, hsize⟩, hvalue, Int64.ofInt_toInt]
  rw [hwhole] at hunsigned
  exact hunsigned

/-! ## Documents -/

theorem skip_cons {c : Char} (hc : isGap c = false) (cs : List Char) : skip (c :: cs) = c :: cs :=
  List.dropWhile_cons_of_neg (Bool.eq_false_iff.mp hc)

theorem value?_quote (room : Nat) (cs : List Char) :
    value? (room + 1) ('"' :: cs) =
      match stringBody? cs with
      | none => none
      | some (none, rest) => some (.unreadable, rest)
      | some (some s, rest) => some (.string (String.ofList s), rest) := rfl

/-- No other document begins with what a number begins with. -/
theorem value?_number {c : Char} (hc : isDigit c = true ∨ c = '-') (room : Nat) (cs : List Char) :
    value? (room + 1) (c :: cs) = number? (c :: cs) := by
  rw [value?.eq_2, skip_cons (isGap_of_begins hc)]
  split
  case h_7 => rfl
  all_goals
    rename_i heq
    exact absurd (List.cons.inj heq).1 (ne_of_begins hc (by decide) (by decide))

theorem value?_array {c : Char} (hgap : isGap c = false) (hc : c ≠ ']') (room : Nat)
    (cs : List Char) : value? (room + 1) ('[' :: c :: cs) =
      (items? room (c :: cs)).map fun (js, rest) => (.array js, rest) := by
  rw [value?.eq_2, skip_cons (by decide)]
  simp only [skip_cons hgap]
  split
  · next heq => exact absurd (List.cons.inj heq).1 hc
  · rfl

theorem value?_object (room : Nat) (cs : List Char) :
    value? (room + 1) ('\x7b' :: '"' :: cs) =
      (members? room ('"' :: cs)).map fun (ms, rest) =>
        (match ms with
          | none => .unreadable
          | some ms => .object ms, rest) := rfl

theorem items?_of_value? {room : Nat} {cs rest : List Char} {j : Json}
    (h : value? room cs = some (j, rest)) :
    items? (room + 1) cs =
      match skip rest with
      | ']' :: rest => some ([j], rest)
      | ',' :: rest => (items? room rest).map fun (js, rest) => (j :: js, rest)
      | _ => none := by
  have hstep := items?.eq_2 cs room
  rw [h] at hstep
  exact hstep

theorem members?_of_value? {room : Nat} {cs rest : List Char} {j : Json} (name : String)
    (h : value? room cs = some (j, rest)) :
    members? (room + 1) (stringChars name ++ ':' :: cs) =
      match skip rest with
      | '\x7d' :: rest => some (some [(name, j)], rest)
      | ',' :: rest => (members? room rest).map fun (ms, rest) =>
        (ms.bind fun ms => some ((name, j) :: ms), rest)
      | _ => none := by
  have hcolon : skip (':' :: cs) = ':' :: cs := skip_cons (by decide) cs
  have hstep := members?.eq_2 (stringChars name ++ ':' :: cs) room
  rw [stringChars_append, skip_cons (by decide)] at hstep
  simp only [stringBody?_flatMap_escapeChar, hcolon, h, Option.map_some,
    String.ofList_toList] at hstep
  rw [stringChars_append]
  exact hstep

/-- A document whose text says all of it: no number has a fraction, and everything denotes
something. -/
inductive Exact : Json → Prop
  | null : Exact .null
  | bool (b : Bool) : Exact (.bool b)
  | natural (n : UInt64) : Exact (.number (.natural n))
  | negative {n : Int64} (h : n.toInt < 0) : Exact (.number (.negative n))
  | string (s : String) : Exact (.string s)
  | array {items : List Json} (h : ∀ j ∈ items, Exact j) : Exact (.array items)
  | object {members : List (String × Json)} (h : ∀ m ∈ members, Exact m.2) :
      Exact (.object members)

theorem exact_ofOption (s : Option String) : Exact (ofOption s) := by
  cases s with
  | none => exact .null
  | some s => exact .string s

/-- An object is exact if each of its members is. -/
theorem exact_object {members : List (String × Json)} (h : members.Forall fun m => Exact m.2) :
    Exact (.object members) :=
  .object (List.forall_iff_forall_mem.mp h)

/-- An array of exact documents is exact. -/
theorem exact_map {α : Type} {write : α → Json} (h : ∀ a, Exact (write a)) (as : List α) :
    Exact (.array (as.map write)) := by
  refine .array fun j hj => ?_
  obtain ⟨a, -, rfl⟩ := List.mem_map.mp hj
  exact h a

/-- The text of an exact document begins with neither white space nor the end of an array. -/
theorem Exact.chars_eq_cons {j : Json} (h : Exact j) :
    ∃ c cs, j.chars = c :: cs ∧ isGap c = false ∧ c ≠ ']' := by
  have hdigits : ∀ n, ∃ c cs, Nat.toDigits 10 n = c :: cs ∧ isGap c = false ∧ c ≠ ']' := by
    intro n
    obtain ⟨c, cs, hcons, hc⟩ := Number.toDigits_eq_cons n
    exact ⟨c, cs, hcons, isGap_of_begins (.inl hc), ne_of_begins (.inl hc) (by decide) (by decide)⟩
  cases h with
  | null => exact ⟨'n', _, rfl, by decide, by decide⟩
  | bool b =>
      cases b with
      | true => exact ⟨'t', _, rfl, by decide, by decide⟩
      | false => exact ⟨'f', _, rfl, by decide, by decide⟩
  | natural n => exact hdigits n.toNat
  | negative hn => exact ⟨'-', _, rfl, by decide, by decide⟩
  | string s => exact ⟨'"', _, rfl, by decide, by decide⟩
  | @array items h =>
      cases items with
      | nil => exact ⟨'[', _, rfl, by decide, by decide⟩
      | cons j rest => exact ⟨'[', _, rfl, by decide, by decide⟩
  | @object members h =>
      cases members with
      | nil => exact ⟨'\x7b', _, rfl, by decide, by decide⟩
      | cons m rest => exact ⟨'\x7b', _, rfl, by decide, by decide⟩

/-- Whether a document is read back from its text before what ends a part.  Twice as many steps as
characters are room enough, since each item takes a step of its own. -/
def ReadsBack (j : Json) : Prop :=
  ∀ room rest, 2 * j.chars.length ≤ room → Ends rest →
    value? room (j.chars ++ rest) = some (j, rest)

theorem items?_chars {j : Json} {items : List Json} (h : ∀ i ∈ j :: items, ReadsBack i)
    (rest : List Char) (room : Nat)
    (hroom : 2 * (j.chars.length + (itemChars items).length) ≤ room) :
    items? room (j.chars ++ itemChars items ++ rest) = some (j :: items, rest) := by
  induction items generalizing j room with
  | nil =>
      rw [itemChars, List.length_singleton] at hroom
      obtain ⟨room, rfl⟩ : ∃ n, room = n + 1 := ⟨room - 1, by omega⟩
      have hj := h j List.mem_cons_self room _ (by omega) (ends_cons (.inr (.inl rfl)) rest)
      rw [itemChars, List.append_assoc, List.singleton_append, items?_of_value? hj]
      rfl
  | cons i items ih =>
      rw [itemChars, List.cons_append, List.length_cons, List.length_append] at hroom
      obtain ⟨room, rfl⟩ : ∃ n, room = n + 1 := ⟨room - 1, by omega⟩
      have hj := h j List.mem_cons_self room _ (by omega)
        (ends_cons (.inl rfl) (i.chars ++ itemChars items ++ rest))
      have hitems := ih (fun k hk => h k (List.mem_cons_of_mem j hk)) room (by omega)
      have htext : j.chars ++ itemChars (i :: items) ++ rest =
          j.chars ++ ',' :: (i.chars ++ itemChars items ++ rest) := by
        simp only [itemChars, List.append_assoc, List.cons_append]
      rw [htext, items?_of_value? hj]
      exact congrArg (Option.map _) hitems

theorem members?_chars {m : String × Json} {ms : List (String × Json)}
    (h : ∀ i ∈ m :: ms, ReadsBack i.2) (rest : List Char) (room : Nat)
    (hroom : 2 * (m.2.chars.length + (memberChars ms).length) ≤ room) :
    members? room (stringChars m.1 ++ ':' :: (m.2.chars ++ memberChars ms ++ rest)) =
      some (some (m :: ms), rest) := by
  induction ms generalizing m room with
  | nil =>
      rw [memberChars, List.length_singleton] at hroom
      obtain ⟨room, rfl⟩ : ∃ n, room = n + 1 := ⟨room - 1, by omega⟩
      have hj := h m List.mem_cons_self room _ (by omega) (ends_cons (.inr (.inr rfl)) rest)
      rw [memberChars, List.append_assoc, List.singleton_append, members?_of_value? m.1 hj]
      rfl
  | cons i ms ih =>
      have htext : memberChars (i :: ms) ++ rest =
          ',' :: (stringChars i.1 ++ ':' :: (i.2.chars ++ memberChars ms ++ rest)) := by
        simp only [memberChars, List.cons_append, List.append_assoc]
      have hlength : i.2.chars.length + (memberChars ms).length <
          (memberChars (i :: ms)).length := by
        simp only [memberChars, List.cons_append, List.length_cons, List.length_append]
        omega
      obtain ⟨room, rfl⟩ : ∃ n, room = n + 1 := ⟨room - 1, by omega⟩
      have hj := h m List.mem_cons_self room _ (by omega) (ends_cons (.inl rfl)
        (stringChars i.1 ++ ':' :: (i.2.chars ++ memberChars ms ++ rest)))
      have hms := ih (fun k hk => h k (List.mem_cons_of_mem m hk)) room (by omega)
      rw [List.append_assoc, htext, members?_of_value? m.1 hj]
      exact congrArg (Option.map _) hms

/-- A document whose parts are no documents needs a single step. -/
theorem readsBack_of_step {j : Json} (h : ∀ room rest, Ends rest →
    value? (room + 1) (j.chars ++ rest) = some (j, rest)) (hchars : j.chars ≠ []) :
    ReadsBack j := by
  intro room rest hroom hrest
  have hlength := List.length_pos_iff.mpr hchars
  obtain ⟨room, rfl⟩ : ∃ n, room = n + 1 := ⟨room - 1, by omega⟩
  exact h room rest hrest

theorem readsBack_string (s : String) : ReadsBack (.string s) := by
  refine readsBack_of_step (fun room rest _ => ?_) (List.cons_ne_nil _ _)
  rw [chars, stringChars_append, value?_quote, stringBody?_flatMap_escapeChar]
  simp only [String.ofList_toList]

theorem readsBack_number {n : Json.Number} {c : Char} {cs : List Char} (hchars : n.chars = c :: cs)
    (hc : isDigit c = true ∨ c = '-')
    (h : ∀ rest, Ends rest → number? (n.chars ++ rest) = some (.number n, rest)) :
    ReadsBack (.number n) := by
  have hcons : chars (.number n) = c :: cs := by rw [chars, hchars]
  refine readsBack_of_step (fun room rest hrest => ?_) (hcons ▸ List.cons_ne_nil c cs)
  rw [hcons, List.cons_append, value?_number hc, ← List.cons_append, ← hchars]
  exact h rest hrest

theorem readsBack_array {items : List Json} (hexact : ∀ j ∈ items, Exact j)
    (h : ∀ j ∈ items, ReadsBack j) : ReadsBack (.array items) := by
  cases items with
  | nil =>
      exact readsBack_of_step (fun room rest _ => rfl) (List.cons_ne_nil _ _)
  | cons j items =>
      intro room rest hroom _
      obtain ⟨c, cs, hchars, hgap, hc⟩ := (hexact j List.mem_cons_self).chars_eq_cons
      have htext : chars (.array (j :: items)) ++ rest =
          '[' :: c :: (cs ++ itemChars items ++ rest) := by
        rw [chars, hchars]
        rfl
      have hlength : j.chars.length + (itemChars items).length <
          (chars (.array (j :: items))).length := by
        rw [chars, List.cons_append, List.length_cons, List.length_append]
        omega
      obtain ⟨room, rfl⟩ : ∃ n, room = n + 1 := ⟨room - 1, by omega⟩
      have hitems := items?_chars h rest room (by omega)
      rw [hchars] at hitems
      rw [htext, value?_array hgap hc]
      exact congrArg (Option.map _) hitems

theorem readsBack_object {members : List (String × Json)} (h : ∀ m ∈ members, ReadsBack m.2) :
    ReadsBack (.object members) := by
  cases members with
  | nil =>
      exact readsBack_of_step (fun room rest _ => rfl) (List.cons_ne_nil _ _)
  | cons m ms =>
      intro room rest hroom _
      have htext : chars (.object (m :: ms)) ++ rest =
          '\x7b' :: (stringChars m.1 ++ ':' :: (m.2.chars ++ memberChars ms ++ rest)) := by
        simp only [chars, List.cons_append, List.append_assoc]
      have hlength : m.2.chars.length + (memberChars ms).length <
          (chars (.object (m :: ms))).length := by
        simp only [chars, List.cons_append, List.length_cons, List.length_append]
        omega
      obtain ⟨room, rfl⟩ : ∃ n, room = n + 1 := ⟨room - 1, by omega⟩
      have hmembers := members?_chars h rest room (by omega)
      rw [stringChars_append] at htext hmembers
      rw [htext, value?_object, hmembers]
      rfl

/-- An exact document is read back before what ends a part. -/
theorem Exact.readsBack {j : Json} (h : Exact j) : ReadsBack j := by
  induction h with
  | null => exact readsBack_of_step (fun room rest _ => rfl) (List.cons_ne_nil _ _)
  | bool b =>
      cases b with
      | true => exact readsBack_of_step (fun room rest _ => rfl) (List.cons_ne_nil _ _)
      | false => exact readsBack_of_step (fun room rest _ => rfl) (List.cons_ne_nil _ _)
  | natural n =>
      obtain ⟨c, cs, hcons, hc⟩ := Number.toDigits_eq_cons n.toNat
      exact readsBack_number hcons (.inl hc) fun rest hrest => number?_natural n hrest
  | negative hn => exact readsBack_number rfl (.inr rfl) fun rest hrest => number?_negative hn hrest
  | string s => exact readsBack_string s
  | array h ih => exact readsBack_array h ih
  | object h ih => exact readsBack_object ih

/-- What an exact document is written as reads back as the document. -/
theorem ofText?_text {j : Json} (h : Exact j) : ofText? j.text = some j := by
  have hread := h.readsBack (2 * j.chars.length + 2) [] (by omega) ends_nil
  rw [List.append_nil] at hread
  simp only [ofText?, text, String.toList_ofList, hread]
  rfl

end AttributeRelease.Json
