import AttributeRelease.Proofs.Checks
import AttributeRelease.Transient.Basic
import Mathlib.Data.List.Basic

/-!
# What a transient identifier says

Fields that are joined by a separator are told apart again when none of them has the separator.
The three parts of an identifier are joined without any marking.  So the text is read again only
where it has three pieces, and then no part has the separator, so that the pieces are the parts.
-/

/-! ## Joined and split texts -/

namespace AttributeRelease.Text

theorem pieces_eq_splitOn (separator : Char) (cs : List Char) :
    pieces separator cs = cs.splitOn separator := by
  induction cs with
  | nil => rfl
  | cons c rest ih =>
      have hne := pieces_ne_nil separator rest
      rw [ih] at hne
      rw [pieces, ih, List.splitOn_cons_eq_if_modifyHead]
      by_cases hc : c = separator
      · simp [hc]
      · cases hpieces : rest.splitOn separator with
        | nil => exact absurd hpieces hne
        | cons piece more => simp [hc]

theorem pieces_intercalate {separator : Char} {fields : List (List Char)} (hne : fields ≠ [])
    (h : ∀ field ∈ fields, separator ∉ field) :
    pieces separator ([separator].intercalate fields) = fields := by
  rw [pieces_eq_splitOn]
  exact List.splitOn_intercalate separator h hne

theorem length_pieces (separator : Char) (cs : List Char) :
    (pieces separator cs).length = cs.count separator + 1 := by
  induction cs with
  | nil => rfl
  | cons c rest ih =>
      rw [pieces]
      by_cases hc : c = separator
      · simp [hc, ih]
      · cases hpieces : pieces separator rest with
        | nil => exact absurd hpieces (pieces_ne_nil separator rest)
        | cons piece more =>
            rw [hpieces] at ih
            simpa [hc] using ih

end AttributeRelease.Text

/-! ## Identifiers -/

namespace AttributeRelease.TransientId

/-- The separators within the parts. -/
def separators (t : TransientId) : Nat :=
  t.issuer.toList.count '!' + t.requester.toList.count '!' + t.principal.toList.count '!'

theorem text_toList (t : TransientId) :
    t.text.toList =
      ['!'].intercalate [t.issuer.toList, t.requester.toList, t.principal.toList] := by
  simp [text, String.toList_append]

theorem length_pieces_text (t : TransientId) :
    (Text.pieces '!' t.text.toList).length = t.separators + 3 := by
  rw [Text.length_pieces, text, separators]
  simp only [String.toList_append, List.count_append]
  have hsep : "!".toList.count '!' = 1 := rfl
  omega

/-- A text is read as the parts that it was made of, or not at all. -/
theorem ofText_text (t : TransientId) :
    ofText t.text =
      if t.separators = 0 then .ok t
      else .error (.invalidToken s!"expected 3 components, found {t.separators + 3}") := by
  have hlength := length_pieces_text t
  by_cases hnone : t.separators = 0
  · have hparts : ∀ part ∈ [t.issuer.toList, t.requester.toList, t.principal.toList],
        '!' ∉ part := by
      intro part hpart
      rw [separators] at hnone
      rw [← List.count_eq_zero]
      simp only [List.mem_cons, List.not_mem_nil, or_false] at hpart
      rcases hpart with rfl | rfl | rfl
      · omega
      · omega
      · omega
    rw [if_pos hnone, ofText, text_toList, Text.pieces_intercalate (by simp) hparts]
    simp only [List.map_cons, List.map_nil, String.ofList_toList]
  · rw [if_neg hnone, ofText]
    split
    case h_1 issuer requester principal hpieces =>
      have hthree := congrArg List.length hpieces
      rw [List.length_map, hlength] at hthree
      exact absurd hthree (by simp [hnone])
    case h_2 => rw [List.length_map, hlength]

/-! ## Times -/

theorem last_time : Int.pow 2 63 - 1 = 9223372036854775807 := rfl

/-- Times beyond the last one that can be written down are the last one. -/
theorem toInt_expiry (now : Int64) (lifetime : Duration) :
    (expiry now.toInt lifetime).toInt =
      min (now.toInt + min (lifetime.millis : Int) (Int.pow 2 63 - 1)) (Int.pow 2 63 - 1) := by
  have hlow := now.le_toInt
  rw [expiry, last_time, Int64.toInt_ofInt_of_le]
  · omega
  · omega

theorem toInt_expiry_le (now : Int64) (lifetime : Duration) :
    (expiry now.toInt lifetime).toInt ≤
      min (now.toInt + lifetime.millis) (Int.pow 2 63 - 1) := by
  rw [toInt_expiry, last_time]
  omega

/-! ## Parties -/

theorem agree_eq_ok_iff {part : TransientPart} {decoded : String} {expected : Option String} :
    agree part decoded expected = .ok () ↔ ∀ e ∈ expected, e = decoded := by
  cases expected with
  | none => simp [agree]
  | some e => by_cases he : e = decoded <;> simp [agree, he]

theorem agreeRequired_eq_ok_iff {part : TransientPart} {decoded : String}
    {expected : Option String} :
    agreeRequired part decoded expected = .ok () ↔ expected = some decoded := by
  cases expected with
  | none => simp [agreeRequired]
  | some e => simp [agreeRequired, agree_eq_ok_iff]

/-- A subject presents an identifier to the parties that it was issued by and for. -/
structure Fits (t : TransientId) (subject : Subject) (r : Request) : Prop where
  nameQualifier : ∀ q ∈ subject.nameQualifier, q = t.issuer
  spNameQualifier : ∀ q ∈ subject.spNameQualifier, q = t.requester
  issuer : r.issuer = some t.issuer
  requester : r.requester = some t.requester

theorem belongsTo_eq_ok_iff {t : TransientId} {subject : Subject} {r : Request} :
    t.belongsTo subject r = .ok () ↔ t.Fits subject r := by
  rw [belongsTo, andThen_eq_ok_iff, andThen_eq_ok_iff, andThen_eq_ok_iff, agree_eq_ok_iff,
    agree_eq_ok_iff, agreeRequired_eq_ok_iff, agreeRequired_eq_ok_iff]
  exact ⟨fun ⟨hname, hspName, hissuer, hrequester⟩ => ⟨hname, hspName, hissuer, hrequester⟩,
    fun ⟨hname, hspName, hissuer, hrequester⟩ => ⟨hname, hspName, hissuer, hrequester⟩⟩

/-- What the text of an identifier gives to the parties of a request. -/
theorem principalOf_text (t : TransientId) (subject : Subject) (r : Request) :
    principalOf t.text subject r =
      if t.separators = 0 then (t.belongsTo subject r).map fun _ => t.principal
      else .error (.invalidToken s!"expected 3 components, found {t.separators + 3}") := by
  rw [principalOf, ofText_text]
  by_cases hnone : t.separators = 0
  · rw [if_pos hnone, if_pos hnone]
    cases hbelongs : t.belongsTo subject r with
    | error e => simp [bind, Except.bind, hbelongs, Except.map]
    | ok u => simp [bind, Except.bind, hbelongs, Except.map, pure, Except.pure]
  · rw [if_neg hnone, if_neg hnone]
    rfl

theorem principalOf_text_eq_ok {t : TransientId} {subject : Subject} {r : Request} {name : String}
    (h : principalOf t.text subject r = .ok name) : name = t.principal ∧ t.Fits subject r := by
  rw [principalOf_text] at h
  split at h
  case isFalse => cases h
  case isTrue =>
    cases hbelongs : t.belongsTo subject r with
    | error e =>
        rw [hbelongs] at h
        cases h
    | ok u =>
        rw [hbelongs] at h
        cases h
        exact ⟨rfl, belongsTo_eq_ok_iff.mp hbelongs⟩

theorem principalOf_text_of_fits {t : TransientId} {subject : Subject} {r : Request}
    (hfits : t.Fits subject r) :
    principalOf t.text subject r =
      if t.separators = 0 then .ok t.principal
      else .error (.invalidToken s!"expected 3 components, found {t.separators + 3}") := by
  rw [principalOf_text, belongsTo_eq_ok_iff.mpr hfits]
  rfl

end AttributeRelease.TransientId
