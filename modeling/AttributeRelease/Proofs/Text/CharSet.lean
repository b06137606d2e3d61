import AttributeRelease.Text.CharSet
import Mathlib.Data.List.Sort

/-!
# What sets of characters hold

The operations on sets work on lists of spans.  As long as the spans ascend and are apart, a set
holds what the operation says.
-/

namespace AttributeRelease.Text

/-- A span lies before another one, with a gap between them. -/
def Span.Before (s t : Span) : Prop := s.last + 1 < t.first

theorem Span.holds_iff {s : Span} {n : Nat} : s.holds n ↔ s.first ≤ n ∧ n ≤ s.last := by
  simp [Span.holds]

namespace CharSet

/-- The spans of a set are not empty, ascend and are apart. -/
structure Canonical (spans : List Span) : Prop where
  filled : ∀ s ∈ spans, s.first ≤ s.last
  ordered : spans.Pairwise Span.Before

theorem holds_iff {a : CharSet} {n : Nat} : a.holds n ↔ ∃ s ∈ a.spans, s.holds n := by
  simp [CharSet.holds]

theorem exists_holds_cons_iff {s : Span} {spans : List Span} {n : Nat} :
    (∃ t ∈ s :: spans, t.holds n) ↔ s.holds n ∨ ∃ t ∈ spans, t.holds n :=
  List.exists_mem_cons_iff _ _ _

theorem canonical_cons_iff {s : Span} {spans : List Span} :
    Canonical (s :: spans) ↔
      s.first ≤ s.last ∧ (∀ t ∈ spans, s.Before t) ∧ Canonical spans := by
  constructor
  · rintro ⟨hfilled, hordered⟩
    obtain ⟨hs, hspans⟩ := List.forall_mem_cons.mp hfilled
    obtain ⟨hbefore, hrest⟩ := List.pairwise_cons.mp hordered
    exact ⟨hs, hbefore, hspans, hrest⟩
  · rintro ⟨hs, hbefore, hspans, hrest⟩
    exact ⟨List.forall_mem_cons.mpr ⟨hs, hspans⟩, List.pairwise_cons.mpr ⟨hbefore, hrest⟩⟩

/-! ## Joining -/

/-- The spans that come out start with the first one, and hold what went in. -/
theorem join_spec {s : Span} {rest : List Span} (hs : s.first ≤ s.last)
    (hfilled : ∀ t ∈ rest, t.first ≤ t.last)
    (hsorted : (s :: rest).Pairwise fun a b => a.first ≤ b.first) :
    Canonical (join s rest) ∧ (∀ t ∈ join s rest, s.first ≤ t.first) ∧
      ∀ n, (∃ t ∈ join s rest, t.holds n) ↔ ∃ t ∈ s :: rest, t.holds n := by
  induction rest generalizing s with
  | nil =>
      refine ⟨⟨by simpa [join] using hs, by simp [join]⟩, by simp [join], by simp [join]⟩
  | cons t rest ih =>
      obtain ⟨hfirst, hsorted'⟩ := List.pairwise_cons.mp hsorted
      obtain ⟨ht, hrest⟩ := List.forall_mem_cons.mp hfilled
      obtain ⟨hst, hsrest⟩ := List.forall_mem_cons.mp hfirst
      rw [join]
      split
      · rename_i htouch
        have hjoined : (⟨s.first, max s.last t.last⟩ :: rest : List Span).Pairwise
            fun a b => a.first ≤ b.first :=
          List.pairwise_cons.mpr ⟨hsrest, (List.pairwise_cons.mp hsorted').2⟩
        obtain ⟨hcanonical, hfrom, hholds⟩ :=
          ih (s := ⟨s.first, max s.last t.last⟩) (by simp; omega) hrest hjoined
        refine ⟨hcanonical, hfrom, fun n => (hholds n).trans ?_⟩
        rw [exists_holds_cons_iff, exists_holds_cons_iff (s := s), exists_holds_cons_iff (s := t),
          ← or_assoc]
        refine or_congr_left ?_
        simp only [Span.holds_iff]
        omega
      · rename_i hapart
        obtain ⟨hcanonical, hfrom, hholds⟩ := ih ht hrest hsorted'
        refine ⟨canonical_cons_iff.mpr ⟨hs, fun u hu => ?_, hcanonical⟩, ?_, fun n => ?_⟩
        · have hut := hfrom u hu
          rw [Span.Before]
          omega
        · refine List.forall_mem_cons.mpr ⟨Nat.le_refl _, fun u hu => ?_⟩
          exact Nat.le_trans hst (hfrom u hu)
        · rw [exists_holds_cons_iff, hholds n, exists_holds_cons_iff (s := s)]

/-- A set holds what the spans hold that it is made of. -/
theorem ofSpans_spec (spans : List Span) :
    Canonical (ofSpans spans).spans ∧ ∀ n, (ofSpans spans).holds n ↔ ∃ s ∈ spans, s.holds n := by
  have hsorted : ((spans.filter fun s => s.first ≤ s.last).mergeSort
      fun a b => a.first ≤ b.first).Pairwise fun a b => decide (a.first ≤ b.first) = true :=
    List.pairwise_mergeSort (by simp; omega) (by simp; omega) _
  have hmem {s : Span} : s ∈ (spans.filter fun s => s.first ≤ s.last).mergeSort
      (fun a b => a.first ≤ b.first) ↔ s ∈ spans ∧ s.first ≤ s.last := by
    rw [List.mem_mergeSort, List.mem_filter, decide_eq_true_eq]
  have hkept {s : Span} {n : Nat} (hn : s.holds n) : s.first ≤ s.last := by
    rw [Span.holds_iff] at hn
    omega
  rw [ofSpans]
  generalize (spans.filter fun s => s.first ≤ s.last).mergeSort _ = sorted at hsorted hmem
  cases sorted with
  | nil =>
      refine ⟨⟨by simp [empty], by simp [empty]⟩, fun n => ?_⟩
      simp only [holds_iff, empty, List.not_mem_nil, false_and, exists_false, false_iff]
      rintro ⟨s, hs, hn⟩
      exact List.not_mem_nil (hmem.mpr ⟨hs, hkept hn⟩)
  | cons s rest =>
      obtain ⟨hcanonical, -, hholds⟩ := join_spec (hmem.mp List.mem_cons_self).2
        (fun t ht => (hmem.mp (List.mem_cons_of_mem s ht)).2) (by simpa using hsorted)
      refine ⟨hcanonical, fun n => holds_iff.trans ((hholds n).trans ?_)⟩
      constructor
      · rintro ⟨t, ht, hn⟩
        exact ⟨t, (hmem.mp ht).1, hn⟩
      · rintro ⟨t, ht, hn⟩
        exact ⟨t, hmem.mpr ⟨ht, hkept hn⟩, hn⟩

/-! ## Gaps -/

/-- The gaps from a code point on hold what none of the spans behind it holds. -/
theorem gaps_spec {low : Nat} {spans : List Span} (h : Canonical spans)
    (hlow : ∀ s ∈ spans, low ≤ s.first) :
    Canonical (gaps low spans) ∧ (∀ t ∈ gaps low spans, low ≤ t.first) ∧
      ∀ n ≤ lastCode, (∃ t ∈ gaps low spans, t.holds n) ↔ low ≤ n ∧ ¬ ∃ s ∈ spans, s.holds n := by
  induction spans generalizing low with
  | nil =>
      rw [gaps]
      split
      · rename_i hle
        refine ⟨⟨by simpa using hle, by simp⟩, by simp, fun n hn => ?_⟩
        simp [Span.holds_iff, hn]
      · refine ⟨⟨by simp, by simp⟩, by simp, fun n hn => ?_⟩
        simp
        omega
  | cons s rest ih =>
      obtain ⟨hs, hbefore, hrest⟩ := canonical_cons_iff.mp h
      have hbehind : ∀ t ∈ rest, s.last + 1 ≤ t.first := fun t ht => Nat.le_of_lt (hbefore t ht)
      obtain ⟨hcanonical, hfrom, hholds⟩ := ih hrest hbehind
      have hfirst : low ≤ s.first := hlow s List.mem_cons_self
      have hsplit (n : Nat) : (∃ t ∈ s :: rest, t.holds n) ↔
          (s.first ≤ n ∧ n ≤ s.last) ∨ ∃ t ∈ rest, t.holds n := by
        rw [exists_holds_cons_iff, Span.holds_iff]
      have hlater_lt {n : Nat} (hn : ∃ t ∈ rest, t.holds n) : s.last < n := by
        obtain ⟨t, ht, hn⟩ := hn
        have hst := hbehind t ht
        rw [Span.holds_iff] at hn
        omega
      rw [gaps]
      split
      · rename_i hgap
        refine ⟨canonical_cons_iff.mpr ⟨by simp; omega, fun t ht => ?_, hcanonical⟩, ?_, ?_⟩
        · have hst := hfrom t ht
          simp only [Span.Before]
          omega
        · refine List.forall_mem_cons.mpr ⟨Nat.le_refl _, fun t ht => ?_⟩
          have hst := hfrom t ht
          omega
        · intro n hn
          rw [exists_holds_cons_iff, Span.holds_iff, hholds n hn, hsplit]
          by_cases hlater : ∃ t ∈ rest, t.holds n
          · have hlt := hlater_lt hlater
            simp only [hlater, not_true_eq_false, and_false, or_true, or_false, iff_false]
            omega
          · simp only [hlater, not_false_eq_true, and_true, or_false]
            omega
      · refine ⟨hcanonical, fun t ht => ?_, fun n hn => ?_⟩
        · have hst := hfrom t ht
          omega
        · rw [hholds n hn, hsplit]
          by_cases hlater : ∃ t ∈ rest, t.holds n
          · simp only [hlater, not_true_eq_false, and_false, or_true]
          · simp only [hlater, not_false_eq_true, and_true, or_false]
            omega

/-! ## Operations -/

section Operations

variable {a b : CharSet} {n : Nat}

theorem canonical_union (a b : CharSet) : Canonical (a.union b).spans := (ofSpans_spec _).1

theorem holds_union : (a.union b).holds n ↔ a.holds n ∨ b.holds n := by
  rw [union, (ofSpans_spec _).2 n, holds_iff, holds_iff]
  simp only [List.mem_append, or_and_right, exists_or]

theorem canonical_complement (ha : Canonical a.spans) : Canonical a.complement.spans :=
  (gaps_spec ha fun _ _ => Nat.zero_le _).1

theorem holds_complement (ha : Canonical a.spans) (hn : n ≤ lastCode) :
    a.complement.holds n ↔ ¬ a.holds n := by
  obtain ⟨-, -, hholds⟩ := gaps_spec ha fun _ _ => Nat.zero_le _
  rw [holds_iff, holds_iff]
  exact (hholds n hn).trans (and_iff_right (Nat.zero_le n))

theorem canonical_inter (a b : CharSet) : Canonical (a.inter b).spans :=
  canonical_complement (canonical_union _ _)

theorem holds_inter (ha : Canonical a.spans) (hb : Canonical b.spans) (hn : n ≤ lastCode) :
    (a.inter b).holds n ↔ a.holds n ∧ b.holds n := by
  rw [inter, holds_complement (canonical_union _ _) hn, holds_union, holds_complement ha hn,
    holds_complement hb hn, not_or, not_not, not_not]

theorem holds_diff (ha : Canonical a.spans) (hb : Canonical b.spans) (hn : n ≤ lastCode) :
    (a.diff b).holds n ↔ a.holds n ∧ ¬ b.holds n := by
  rw [diff, holds_inter ha (canonical_complement hb) hn, holds_complement hb hn]

theorem holds_symmDiff (ha : Canonical a.spans) (hb : Canonical b.spans) (hn : n ≤ lastCode) :
    (a.symmDiff b).holds n ↔ ¬ (a.holds n ↔ b.holds n) := by
  rw [symmDiff, holds_diff (canonical_union _ _) (canonical_inter _ _) hn, holds_union,
    holds_inter ha hb hn]
  tauto

end Operations

end CharSet

end AttributeRelease.Text
