import AttributeRelease.Proofs.Number.Decimal
import AttributeRelease.Proofs.Text.Blank
import Mathlib.Algebra.Field.Rat
import Mathlib.Data.Nat.Digits.Lemmas

/-!
# Numerals

Which texts are numerals, and the numbers that they denote: a sign or none, digits of which the last
one is worth the least, and for numbers that need not be whole a point among the digits and an
exponent.  Exactly these texts are read as numbers, and each as the number that it denotes; the
names of what is no finite number are the only other texts that a double precision number is read
from.
-/

namespace AttributeRelease.Number

/-! ## Digits -/

/-- Decimal digits and nothing else. -/
def Digital (cs : List Char) : Prop := ∀ c ∈ cs, '0' ≤ c ∧ c ≤ '9'

instance : DecidablePred Digital := fun cs => inferInstanceAs (Decidable (∀ c ∈ cs, _))

/-- The number that digits denote; the last one is worth the least. -/
def digitsValue (cs : List Char) : Nat :=
  Nat.ofDigits 10 (cs.reverse.map fun c => c.toNat - '0'.toNat)

theorem isDigit_iff {c : Char} : isDigit c = true ↔ '0' ≤ c ∧ c ≤ '9' := by
  by_cases h : '0' ≤ c ∧ c ≤ '9' <;> simp [isDigit, digit?, h]

theorem digital_iff {cs : List Char} : Digital cs ↔ ∀ c ∈ cs, isDigit c = true := by
  simp [Digital, isDigit_iff]

theorem isBlank_of_isDigit {c : Char} (h : isDigit c = true) : Text.isBlank c = false := by
  obtain ⟨hlow, hhigh⟩ := isDigit_iff.mp h
  have hlow : 48 ≤ c.toNat := hlow
  have hhigh : c.toNat ≤ 57 := hhigh
  simp [Text.isBlank]
  omega

theorem digital_toDigits (n : Nat) : Digital (Nat.toDigits 10 n) :=
  digital_iff.mpr (isDigit_of_mem_toDigits n)

theorem digital_append {cs ds : List Char} : Digital (cs ++ ds) ↔ Digital cs ∧ Digital ds := by
  simp only [Digital, List.forall_mem_append]

theorem digitsValue_cons (c : Char) (cs : List Char) :
    digitsValue (c :: cs) = (c.toNat - '0'.toNat) * 10 ^ cs.length + digitsValue cs := by
  simp [digitsValue, Nat.ofDigits_append, Nat.ofDigits_singleton, Nat.mul_comm, Nat.add_comm]

theorem digital_replicate (n : Nat) : Digital (List.replicate n '0') := by
  intro c hc
  rw [List.eq_of_mem_replicate hc]
  decide

theorem digitsValue_replicate (n : Nat) : digitsValue (List.replicate n '0') = 0 := by
  induction n with
  | zero => rfl
  | succ n ih => simp [List.replicate_succ, digitsValue_cons, ih]

theorem natOfDigits_eq {cs : List Char} (h : Digital cs) (n : Nat) :
    natOfDigits n cs = n * 10 ^ cs.length + digitsValue cs := by
  induction cs generalizing n with
  | nil => simp [natOfDigits, digitsValue]
  | cons c rest ih =>
      have hc : digit? c = some (c.toNat - '0'.toNat) := if_pos (h c List.mem_cons_self)
      have hrest : natOfDigits n (c :: rest) =
          natOfDigits (10 * n + (c.toNat - '0'.toNat)) rest := by
        simp [natOfDigits, hc]
      rw [hrest, ih fun d hd => h d (List.mem_cons_of_mem c hd), digitsValue_cons,
        List.length_cons, pow_succ]
      ring

theorem natOfDigits_zero {cs : List Char} (h : Digital cs) : natOfDigits 0 cs = digitsValue cs := by
  simp [natOfDigits_eq h]

theorem digitsValue_toDigits (n : Nat) : digitsValue (Nat.toDigits 10 n) = n := by
  rw [← natOfDigits_zero (digital_toDigits n), natOfDigits_toDigits]

theorem digitsValue_append {cs ds : List Char} (hcs : Digital cs) (hds : Digital ds) :
    digitsValue (cs ++ ds) = digitsValue cs * 10 ^ ds.length + digitsValue ds := by
  rw [← natOfDigits_zero (digital_append.mpr ⟨hcs, hds⟩), natOfDigits_append,
    natOfDigits_zero hcs, natOfDigits_eq hds]

theorem digitsValue_lt {cs : List Char} (h : Digital cs) : digitsValue cs < 10 ^ cs.length := by
  have hdigit : ∀ d ∈ cs.reverse.map fun c => c.toNat - '0'.toNat, d < 10 := by
    intro d hd
    obtain ⟨c, hc, rfl⟩ := List.mem_map.mp hd
    have hhigh : c.toNat ≤ 57 := (h c (List.mem_reverse.mp hc)).2
    exact Nat.lt_succ_of_le (Nat.sub_le_sub_right hhigh 48)
  have hlt := Nat.ofDigits_lt_base_pow_length (by decide) hdigit
  rwa [List.length_map, List.length_reverse] at hlt

theorem nat?_eq_some_iff {cs : List Char} {n : Nat} :
    nat? cs = some n ↔ cs ≠ [] ∧ Digital cs ∧ digitsValue cs = n := by
  have hall : cs.all isDigit = true ↔ Digital cs := by simp [digital_iff]
  by_cases h : cs ≠ [] ∧ Digital cs
  · rw [nat?, if_pos ⟨h.1, hall.mpr h.2⟩, natOfDigits_zero h.2, Option.some.injEq]
    simp [h.1, h.2]
  · rw [nat?, if_neg fun hcs => h ⟨hcs.1, hall.mp hcs.2⟩]
    exact ⟨fun heq => (nomatch heq), fun heq => absurd ⟨heq.1, heq.2.1⟩ h⟩

/-! ## Whole numbers -/

/-- The sign before a numeral, if there is one, and whether the number is negative. -/
inductive Sign : List Char → Bool → Prop
  | absent : Sign [] false
  | plus : Sign ['+'] false
  | minus : Sign ['-'] true

/-- A whole number in decimal digits, of which there may be any number, after an optional sign. -/
inductive WholeNumeral : List Char → Int → Prop
  | intro {sign digits : List Char} {negative : Bool} (hsign : Sign sign negative)
      (hdigits : Digital digits) (hne : digits ≠ []) :
      WholeNumeral (sign ++ digits)
        (if negative then -(digitsValue digits : Int) else digitsValue digits)

theorem not_digital_of_sign {c : Char} {cs : List Char} (hc : c = '+' ∨ c = '-') :
    ¬ Digital (c :: cs) := by
  intro h
  have hdigit := h c List.mem_cons_self
  rcases hc with rfl | rfl
  · exact absurd hdigit (by decide)
  · exact absurd hdigit (by decide)

/-- A text is read as a whole number exactly if it is a numeral of it. -/
theorem int?_eq_some_iff {cs : List Char} {n : Int} : int? cs = some n ↔ WholeNumeral cs n := by
  constructor
  · intro h
    unfold int? at h
    split at h
    case h_1 rest =>
      obtain ⟨k, hk, rfl⟩ := Option.map_eq_some_iff.mp h
      obtain ⟨hne, hdigits, rfl⟩ := nat?_eq_some_iff.mp hk
      exact .intro .plus hdigits hne
    case h_2 rest =>
      obtain ⟨k, hk, rfl⟩ : ∃ k, nat? rest = some k ∧ -(k : Int) = n := by
        simpa [Option.bind_eq_some_iff] using h
      obtain ⟨hne, hdigits, rfl⟩ := nat?_eq_some_iff.mp hk
      exact .intro .minus hdigits hne
    case h_3 =>
      obtain ⟨k, hk, rfl⟩ := Option.map_eq_some_iff.mp h
      obtain ⟨hne, hdigits, rfl⟩ := nat?_eq_some_iff.mp hk
      exact .intro .absent hdigits hne
  · rintro @⟨sign, digits, negative, hsign, hdigits, hne⟩
    have hnat : nat? digits = some (digitsValue digits) :=
      nat?_eq_some_iff.mpr ⟨hne, hdigits, rfl⟩
    cases hsign with
    | absent =>
        rw [List.nil_append]
        unfold int?
        split
        case h_1 rest => exact absurd hdigits (not_digital_of_sign (.inl rfl))
        case h_2 rest => exact absurd hdigits (not_digital_of_sign (.inr rfl))
        case h_3 => simp [hnat]
    | plus => simp [int?, hnat]
    | minus => simp [int?, hnat]

/-- A text is read as a number of 64 bits exactly if it is a numeral of it; numerals of numbers that
need more bits are refused. -/
theorem int64?_eq_some_iff {s : String} {n : Int64} :
    int64? s = some n ↔ WholeNumeral s.toList n.toInt := by
  have hpow : Int.pow 2 63 = 2 ^ 63 := rfl
  rw [int64?, ← int?_eq_some_iff, Option.bind_eq_some_iff, hpow]
  constructor
  · rintro ⟨k, hk, hn⟩
    split at hn
    case isTrue hrange =>
      obtain rfl := Option.some.inj hn
      rwa [Int64.toInt_ofInt_of_le hrange.1 hrange.2]
    case isFalse => cases hn
  · intro h
    refine ⟨n.toInt, h, ?_⟩
    rw [if_pos ⟨n.le_toInt, n.toInt_lt⟩, Int64.ofInt_toInt]

/-- A numeral has no blanks. -/
theorem WholeNumeral.trim {s : String} {n : Int} (h : WholeNumeral s.toList n) :
    Text.trim s = s := by
  have hblank : ∀ {cs : List Char}, WholeNumeral cs n → ∀ c ∈ cs, Text.isBlank c = false := by
    rintro cs @⟨sign, digits, negative, hsign, hdigits, -⟩ c hc
    rcases List.mem_append.mp hc with hc | hc
    · cases hsign with
      | absent => cases hc
      | plus => exact List.mem_singleton.mp hc ▸ by decide
      | minus => exact List.mem_singleton.mp hc ▸ by decide
    · exact isBlank_of_isDigit (digital_iff.mp hdigits c hc)
  rw [Text.trim, Text.trimChars_of_not_blank (hblank h), String.ofList_toList]

theorem wholeNumeral_repr (n : Int) : WholeNumeral n.repr.toList n := by
  cases n with
  | ofNat n =>
      have h := WholeNumeral.intro .absent (digital_toDigits n) Nat.toDigits_ne_nil
      simpa [Int.repr, Nat.repr, digitsValue_toDigits] using h
  | negSucc n =>
      have h := WholeNumeral.intro .minus (digital_toDigits (n + 1)) Nat.toDigits_ne_nil
      simpa [Int.repr, Nat.repr, digitsValue_toDigits, Int.negSucc_eq] using h

/-! ## Decimal numbers -/

/-- The exponent at the end of a numeral, if there is one. -/
inductive Exponent : List Char → Int → Prop
  | absent : Exponent [] 0
  | written {c : Char} {cs : List Char} {e : Int} (hc : c = 'e' ∨ c = 'E')
      (he : WholeNumeral cs e) : Exponent (c :: cs) e

/-- The digits behind the point, if there is one. -/
inductive Fraction : List Char → List Char → Prop
  | absent : Fraction [] []
  | point (digits : List Char) : Fraction ('.' :: digits) digits

/-- A decimal number without a sign, which has a digit before or behind the point. -/
inductive Magnitude (negative : Bool) : List Char → Numeral → Prop
  | intro {whole point fraction exponent : List Char} {e : Int} (hwhole : Digital whole)
      (hpoint : Fraction point fraction) (hfraction : Digital fraction)
      (hne : whole ≠ [] ∨ fraction ≠ []) (hexponent : Exponent exponent e) :
      Magnitude negative (whole ++ (point ++ exponent))
        ⟨negative, digitsValue (whole ++ fraction), fraction.length, e⟩

theorem Magnitude.whole {digits : List Char} (hdigits : Digital digits) (hne : digits ≠ [])
    (negative : Bool) : Magnitude negative digits ⟨negative, digitsValue digits, 0, 0⟩ := by
  have h : Magnitude negative _ _ :=
    .intro hdigits .absent (by simp [Digital]) (.inl hne) .absent
  simpa using h

theorem Magnitude.point {whole fraction : List Char} (hwhole : Digital whole)
    (hfraction : Digital fraction) (hne : whole ≠ []) (negative : Bool) :
    Magnitude negative (whole ++ '.' :: fraction)
      ⟨negative, digitsValue (whole ++ fraction), fraction.length, 0⟩ := by
  have h : Magnitude negative _ _ :=
    .intro hwhole (.point fraction) hfraction (.inl hne) .absent
  simpa using h

/-- A decimal number after an optional sign. -/
inductive Spells : List Char → Numeral → Prop
  | intro {sign cs : List Char} {negative : Bool} {n : Numeral} (hsign : Sign sign negative)
      (hmagnitude : Magnitude negative cs n) : Spells (sign ++ cs) n

/-- The number that a numeral denotes, apart from its sign. -/
def Numeral.magnitude (n : Numeral) : ℚ := n.digits * 10 ^ (n.exponent - n.places)

/-- The number that a numeral denotes. -/
def Numeral.value (n : Numeral) : ℚ := (if n.negative then -1 else 1) * n.magnitude

/-- A numeral of a whole number is a numeral, and denotes the same. -/
theorem WholeNumeral.spells {cs : List Char} {n : Int} (h : WholeNumeral cs n) :
    ∃ k, Spells cs k ∧ k.value = n := by
  obtain @⟨sign, digits, negative, hsign, hdigits, hne⟩ := h
  refine ⟨_, .intro hsign (.whole hdigits hne negative), ?_⟩
  cases negative <;> simp [Numeral.value, Numeral.magnitude]

theorem exponent?_eq_some_iff {cs : List Char} {e : Int} :
    Numeral.exponent? cs = some e ↔ Exponent cs e := by
  constructor
  · intro h
    unfold Numeral.exponent? at h
    split at h
    case h_1 =>
      cases h
      exact .absent
    case h_2 c rest =>
      split at h
      case isTrue hc => exact .written hc (int?_eq_some_iff.mp h)
      case isFalse => cases h
  · rintro (_ | ⟨hc, he⟩)
    · rfl
    · rw [Numeral.exponent?, if_pos hc, int?_eq_some_iff.mpr he]

theorem Exponent.head? {cs : List Char} {e : Int} (h : Exponent cs e) :
    ∀ c ∈ cs.head?, isDigit c = false ∧ c ≠ '.' := by
  rcases h with _ | ⟨rfl | rfl, -⟩
  · simp
  · simp only [List.head?_cons, Option.mem_def, Option.some.injEq, forall_eq']
    decide
  · simp only [List.head?_cons, Option.mem_def, Option.some.injEq, forall_eq']
    decide

/-- What is found at the front are digits, and with what follows them the whole text. -/
theorem digital_spanDigits {cs digits rest : List Char} (h : spanDigits cs = (digits, rest)) :
    Digital digits ∧ digits ++ rest = cs := by
  rw [spanDigits, List.span_eq_takeWhile_dropWhile, Prod.mk.injEq] at h
  obtain ⟨rfl, rfl⟩ := h
  exact ⟨digital_iff.mpr (List.all_eq_true.mp List.all_takeWhile),
    List.takeWhile_append_dropWhile⟩

/-- Digits with a point and an exponent behind them. -/
theorem magnitude_of_exponent {negative : Bool} {whole point fraction rest : List Char}
    (hwhole : Digital whole) (hpoint : Fraction point fraction) (hfraction : Digital fraction)
    {n : Numeral}
    (h : (if whole = [] ∧ fraction = [] then none
      else (Numeral.exponent? rest).map fun e =>
        (⟨negative, natOfDigits (natOfDigits 0 whole) fraction, fraction.length, e⟩ : Numeral)) =
      some n) : Magnitude negative (whole ++ (point ++ rest)) n := by
  split at h
  case isTrue => cases h
  case isFalse hne =>
    obtain ⟨e, he, rfl⟩ := Option.map_eq_some_iff.mp h
    rw [← natOfDigits_append, natOfDigits_zero (digital_append.mpr ⟨hwhole, hfraction⟩)]
    have hne : whole ≠ [] ∨ fraction ≠ [] := by
      by_contra hnone
      exact hne (by simpa using hnone)
    exact .intro hwhole hpoint hfraction hne (exponent?_eq_some_iff.mp he)

theorem unsigned?_eq_some_iff {negative : Bool} {cs : List Char} {n : Numeral} :
    Numeral.unsigned? negative cs = some n ↔ Magnitude negative cs n := by
  constructor
  · intro h
    unfold Numeral.unsigned? at h
    cases hspan : spanDigits cs with | mk whole rest =>
    obtain ⟨hwhole, rfl⟩ := digital_spanDigits hspan
    simp only [hspan] at h
    split at h
    case h_1 more =>
      obtain ⟨hfraction, heq⟩ := digital_spanDigits (Prod.eta (spanDigits more)).symm
      have hmagnitude := magnitude_of_exponent hwhole (.point _) hfraction h
      rwa [List.cons_append, heq] at hmagnitude
    case h_2 => exact magnitude_of_exponent hwhole .absent (by simp [Digital]) h
  · rintro @⟨whole, point, fraction, exponent, e, hwhole, hpoint, hfraction, hne, hexponent⟩
    have hvalue : natOfDigits (natOfDigits 0 whole) fraction = digitsValue (whole ++ fraction) := by
      rw [← natOfDigits_append, natOfDigits_zero (digital_append.mpr ⟨hwhole, hfraction⟩)]
    have hnone : ¬ (whole = [] ∧ fraction = []) := fun h => hne.elim (· h.1) (· h.2)
    have hexp : Numeral.exponent? exponent = some e := exponent?_eq_some_iff.mpr hexponent
    cases hpoint with
    | absent =>
        have hspan : spanDigits (whole ++ exponent) = (whole, exponent) :=
          spanDigits_append (digital_iff.mp hwhole) fun c hc => (hexponent.head? c hc).1
        unfold Numeral.unsigned?
        simp only [List.nil_append, hspan]
        split
        case h_1 more => exact absurd rfl (hexponent.head? '.' rfl).2
        case h_2 => simp [hne.resolve_right (by simp), hexp, hvalue]
    | point =>
        have hspan : spanDigits (whole ++ '.' :: (fraction ++ exponent)) =
            (whole, '.' :: (fraction ++ exponent)) :=
          spanDigits_append (digital_iff.mp hwhole) (by simp; decide)
        have hfractions : spanDigits (fraction ++ exponent) = (fraction, exponent) :=
          spanDigits_append (digital_iff.mp hfraction) fun c hc => (hexponent.head? c hc).1
        simp [Numeral.unsigned?, hspan, hfractions, hexp, hvalue, hnone]

theorem Magnitude.head? {negative : Bool} {cs : List Char} {n : Numeral}
    (h : Magnitude negative cs n) : ∃ c ∈ cs.head?, isDigit c = true ∨ c = '.' := by
  obtain @⟨whole, point, fraction, exponent, e, hwhole, hpoint, -, hne, -⟩ := h
  cases whole with
  | cons c rest => exact ⟨c, rfl, .inl (digital_iff.mp hwhole c List.mem_cons_self)⟩
  | nil =>
      cases hpoint with
      | absent => simp at hne
      | point => exact ⟨'.', rfl, .inr rfl⟩

/-! ## Numbers of double precision -/

/-- The names of what is no finite number. -/
def names : List (List Char) := ["inf".toList, "infinity".toList, "nan".toList]

/-- A name of what is no finite number, in any case of letters and after an optional sign. -/
inductive Unbounded : List Char → Prop
  | intro {sign cs : List Char} {negative : Bool} (hsign : Sign sign negative)
      (hname : cs.map Char.toLower ∈ names) : Unbounded (sign ++ cs)

theorem toLower_ofNat : ∀ n < 91, 65 ≤ n → (Char.ofNat n).toLower = Char.ofNat (n + 32) := by
  decide

theorem toLower_eq (c : Char) :
    (if 'A' ≤ c ∧ c ≤ 'Z' then Char.ofNat (c.toNat + 32) else c) = c.toLower := by
  by_cases h : 'A' ≤ c ∧ c ≤ 'Z'
  · have hlow : 65 ≤ c.toNat := h.1
    have hhigh : c.toNat ≤ 90 := h.2
    have hlower := toLower_ofNat c.toNat (by omega) hlow
    rw [Char.ofNat_toNat] at hlower
    rw [if_pos h, hlower]
  · have hsame : c.toLower = c := dif_neg fun hupper => h hupper
    rw [if_neg h, hsame]

theorem isSome_special?_iff {negative : Bool} {cs : List Char} :
    (special? negative cs).isSome ↔ cs.map Char.toLower ∈ names := by
  have hlower : (cs.map fun c => if 'A' ≤ c ∧ c ≤ 'Z' then Char.ofNat (c.toNat + 32) else c) =
      cs.map Char.toLower := List.map_congr_left fun c _ => toLower_eq c
  simp only [special?, hlower, names, List.mem_cons, List.not_mem_nil, or_false, ← or_assoc]
  split
  case isTrue h => exact ⟨fun _ => .inl h, fun _ => rfl⟩
  case isFalse h =>
    split
    case isTrue hnan => exact ⟨fun _ => .inr hnan, fun _ => rfl⟩
    case isFalse hnan => exact ⟨fun hsome => (nomatch hsome), fun hor => (hor.elim h hnan).elim⟩

/-- A name has no digit and no point at its front, so it is no numeral. -/
theorem Magnitude.not_name {negative : Bool} {cs : List Char} {n : Numeral}
    (h : Magnitude negative cs n) : cs.map Char.toLower ∉ names := by
  obtain ⟨c, hc, hfront⟩ := h.head?
  obtain ⟨rest, rfl⟩ : ∃ rest, cs = c :: rest := List.head?_eq_some_iff.mp hc
  have hlower : c.toLower ≠ 'i' ∧ c.toLower ≠ 'n' := by
    rcases hfront with hdigit | rfl
    · have hhigh : c ≤ '9' := (isDigit_iff.mp hdigit).2
      have hsame : c.toLower = c :=
        dif_neg fun h => absurd (Char.le_trans h.1 hhigh) (by decide)
      rw [hsame]
      constructor
      · rintro rfl
        exact absurd hhigh (by decide)
      · rintro rfl
        exact absurd hhigh (by decide)
    · decide
  intro hname
  simp [names, hlower] at hname

theorem unsignedBinary64?_of_magnitude {negative : Bool} {cs : List Char} {n : Numeral}
    (h : Magnitude negative cs n) : unsignedBinary64? negative cs = some n.toBinary64 := by
  have hspecial : special? negative cs = none := by
    rw [← Option.not_isSome_iff_eq_none, isSome_special?_iff]
    exact h.not_name
  rw [unsignedBinary64?, hspecial, unsigned?_eq_some_iff.mpr h]
  rfl

theorem isSome_unsignedBinary64?_iff {negative : Bool} {cs : List Char} :
    (unsignedBinary64? negative cs).isSome ↔
      (∃ n, Magnitude negative cs n) ∨ cs.map Char.toLower ∈ names := by
  rw [← isSome_special?_iff, unsignedBinary64?]
  cases special? negative cs with
  | some x => simp
  | none => simp [← unsigned?_eq_some_iff, ← Option.isSome_iff_exists]

theorem binary64?_of_sign {sign cs : List Char} {negative : Bool} (hsign : Sign sign negative)
    (hcs : ∀ c ∈ cs.head?, c ≠ '+' ∧ c ≠ '-') :
    binary64? (String.ofList (sign ++ cs)) = unsignedBinary64? negative cs := by
  rw [binary64?, String.toList_ofList]
  cases hsign with
  | plus => rfl
  | minus => rfl
  | absent =>
      rw [List.nil_append]
      split
      case h_1 rest => exact absurd rfl (hcs '-' rfl).2
      case h_2 rest => exact absurd rfl (hcs '+' rfl).1
      case h_3 => rfl

/-- What stands behind the sign begins with none, whether it is a number or a name. -/
theorem Magnitude.no_sign {negative : Bool} {cs : List Char} {n : Numeral}
    (h : Magnitude negative cs n) : ∀ c ∈ cs.head?, c ≠ '+' ∧ c ≠ '-' := by
  obtain ⟨c, hc, hfront⟩ := h.head?
  intro d hd
  obtain rfl := Option.mem_unique hc hd
  rcases hfront with hdigit | rfl
  · constructor
    · rintro rfl
      exact absurd hdigit (by decide)
    · rintro rfl
      exact absurd hdigit (by decide)
  · decide

theorem no_sign_of_name {cs : List Char} (h : cs.map Char.toLower ∈ names) :
    ∀ c ∈ cs.head?, c ≠ '+' ∧ c ≠ '-' := by
  rintro c hc
  obtain ⟨rest, rfl⟩ := List.head?_eq_some_iff.mp hc
  constructor
  · rintro rfl
    simp [names] at h
  · rintro rfl
    simp [names] at h

/-- A text has its sign in one way only. -/
theorem Sign.unique {sign sign' cs cs' : List Char} {negative negative' : Bool}
    (h : Sign sign negative) (h' : Sign sign' negative')
    (hcs : ∀ c ∈ cs.head?, c ≠ '+' ∧ c ≠ '-') (hcs' : ∀ c ∈ cs'.head?, c ≠ '+' ∧ c ≠ '-')
    (heq : sign ++ cs = sign' ++ cs') : negative = negative' ∧ cs = cs' := by
  -- Where the signs are written differently, one of the rests would begin with a sign.
  cases h <;> cases h' <;> simp at heq <;> subst heq <;> simp_all

/-- No numeral is a name of what is no finite number. -/
theorem Spells.not_unbounded {cs : List Char} {n : Numeral} (h : Spells cs n) :
    ¬ Unbounded cs := by
  obtain @⟨sign, cs, negative, n, hsign, hn⟩ := h
  intro hunbounded
  generalize htext : sign ++ cs = text at hunbounded
  obtain @⟨sign', cs', negative', hsign', hname⟩ := hunbounded
  obtain ⟨rfl, rfl⟩ := hsign.unique hsign' hn.no_sign (no_sign_of_name hname) htext
  exact hn.not_name hname

/-- A numeral is read as the number nearest to what it denotes. -/
theorem binary64?_of_spells {cs : List Char} {n : Numeral} (h : Spells cs n) :
    binary64? (String.ofList cs) = some n.toBinary64 := by
  obtain ⟨hsign, hmagnitude⟩ := h
  rw [binary64?_of_sign hsign hmagnitude.no_sign, unsignedBinary64?_of_magnitude hmagnitude]

/-- A number is read from numerals and from the names of what is no finite number, and from no other
text. -/
theorem isSome_binary64?_iff {s : String} :
    (binary64? s).isSome ↔ (∃ n, Spells s.toList n) ∨ Unbounded s.toList := by
  have hread : ∀ {sign cs : List Char} {negative : Bool}, Sign sign negative →
      (unsignedBinary64? negative cs).isSome →
        (∃ n, Spells (sign ++ cs) n) ∨ Unbounded (sign ++ cs) := by
    intro sign cs negative hsign hsome
    rcases isSome_unsignedBinary64?_iff.mp hsome with ⟨n, hn⟩ | hname
    · exact .inl ⟨n, .intro hsign hn⟩
    · exact .inr (.intro hsign hname)
  constructor
  · intro h
    unfold binary64? at h
    split at h
    case h_1 rest heq => exact heq ▸ hread .minus h
    case h_2 rest heq => exact heq ▸ hread .plus h
    case h_3 => exact hread .absent h
  · obtain ⟨cs, rfl⟩ : ∃ cs, s = String.ofList cs := ⟨s.toList, String.ofList_toList.symm⟩
    rw [String.toList_ofList]
    rintro (⟨n, hn⟩ | @⟨sign, cs, negative, hsign, hname⟩)
    · rw [binary64?_of_spells hn]
      rfl
    · rw [binary64?_of_sign hsign (no_sign_of_name hname), isSome_unsignedBinary64?_iff]
      exact .inr hname

end AttributeRelease.Number
