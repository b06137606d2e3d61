import AttributeRelease.Pattern.Basic
import AttributeRelease.Proofs.Pattern.Rounds

/-!
# What a pattern matches

From which places of a text to which others an expression matches, said by its parts alone.  The
search of a pattern finds a match exactly where there is one.
-/

namespace AttributeRelease

namespace Pattern

open Cursor (Follows)

namespace Expr

/-- An expression matches what lies between two places.  A greatest number of rounds below the
least one is none. -/
def Spans : Expr → Cursor → Cursor → Prop
  | empty => Eq
  | oneOf set => fun c d => ∃ x, c.rest.head? = some x ∧ set.contains x ∧ c.next? = some d
  | place p => fun c d => p.between c.before c.rest.head? ∧ c = d
  | seq a b => Relation.Comp a.Spans b.Spans
  | alt a b => fun c d => a.Spans c d ∨ b.Spans c d
  | times body least most _ =>
    fun c d => ∃ n ≥ least, (∀ m ∈ most, n ≤ max least m) ∧ Rounds body.Spans n c d
  | group _ body => body.Spans

theorem oneOf_realizes (set : Text.CharSet) :
    Way.Realizes (oneOf set).ways (oneOf set).Spans where
  follows c d := fun ⟨_, _, _, hnext⟩ => .of_next? hnext
  mem_ends w d := by
    obtain ⟨⟨position, before, rest⟩, captured⟩ := w
    cases rest with
    | nil => simp [ways, Spans]
    | cons x rest =>
        by_cases hx : set.contains x
        · simpa [ways, Spans, Cursor.next?, hx] using eq_comm
        · simp [ways, Spans, Cursor.next?, hx]

theorem place_realizes (p : Place) : Way.Realizes (place p).ways (place p).Spans where
  follows c d := fun ⟨_, heq⟩ => heq ▸ .refl c
  mem_ends w d := by
    by_cases hp : p.between w.cursor.before w.cursor.rest.head?
    · simpa [ways, Spans, hp] using eq_comm
    · simp [ways, Spans, hp]

theorem group_realizes {body : Expr} (h : Way.Realizes body.ways body.Spans) (index : Nat) :
    Way.Realizes (group index body).ways (group index body).Spans where
  follows := h.follows
  mem_ends w d := by
    rw [Spans, ← h.mem_ends, ways, Way.ends, Way.ends, List.map_map]
    rfl

theorem times_realizes {body : Expr} (h : Way.Realizes body.ways body.Spans) (least : Nat)
    (most : Option Nat) (greedy : Bool) :
    Way.Realizes (times body least most greedy).ways (times body least most greedy).Spans := by
  cases most with
  | none =>
      refine (h.atLeast greedy least).congr fun c d => ?_
      simp only [Spans, Option.mem_def, reduceCtorEq, false_implies, implies_true, true_and]
  | some most =>
      refine ((h.repeated least).andThen (h.upTo greedy (most - least))).congr fun c d => ?_
      simp only [Spans, Option.mem_def, Option.some.injEq, forall_eq']
      constructor
      · rintro ⟨e, hleast, m, hm, hmore⟩
        exact ⟨least + m, by omega, by omega, rounds_add.mpr ⟨e, hleast, hmore⟩⟩
      · rintro ⟨n, hleast, hmost, hrounds⟩
        obtain ⟨m, rfl⟩ := Nat.exists_eq_add_of_le hleast
        obtain ⟨e, hfirst, hmore⟩ := rounds_add.mp hrounds
        exact ⟨e, hfirst, m, by omega, hmore⟩

/-- The ways from a place end where the expression matches. -/
theorem ways_realizes (e : Expr) : Way.Realizes e.ways e.Spans := by
  induction e with
  | empty => exact .pure
  | oneOf set => exact oneOf_realizes set
  | place p => exact place_realizes p
  | seq a b iha ihb => exact iha.andThen ihb
  | alt a b iha ihb => exact (iha.append ihb).firsts
  | times body least most greedy ih => exact times_realizes ih least most greedy
  | group index body ih => exact group_realizes ih index

/-! ## Rounds that take nothing -/

section EmptyRounds

variable {R : Cursor → Cursor → Prop} {n : Nat} {c d : Cursor}

theorem eq_of_rounds (hR : ∀ c d, R c d → c = d) (h : Rounds R n c d) : c = d := by
  induction n generalizing c with
  | zero => exact h
  | succ n ih =>
      obtain ⟨e, hround, hrest⟩ := h
      exact (hR c e hround).trans (ih hrest)

/-- All rounds but the first one are as good as none. -/
theorem rounds_succ_iff (hR : ∀ c d, R c d → c = d) :
    Rounds R (n + 1) c d ↔ c = d ∧ R c c := by
  constructor
  · rintro ⟨e, hround, hrest⟩
    obtain rfl := hR c e hround
    exact ⟨eq_of_rounds hR hrest, hround⟩
  · rintro ⟨rfl, hround⟩
    induction n with
    | zero => exact ⟨c, hround, rfl⟩
    | succ n ih => exact ⟨c, hround, ih⟩

end EmptyRounds

theorem eq_of_emptyOnly {e : Expr} (h : e.emptyOnly) {c d : Cursor} (hspans : e.Spans c d) :
    c = d := by
  induction e generalizing c d with
  | empty => exact hspans
  | oneOf set => cases h
  | place p => exact hspans.2
  | seq a b iha ihb =>
      obtain ⟨ha, hb⟩ := (Bool.and_eq_true _ _).mp h
      obtain ⟨m, hfirst, hsecond⟩ := hspans
      exact (iha ha hfirst).trans (ihb hb hsecond)
  | alt a b iha ihb =>
      obtain ⟨ha, hb⟩ := (Bool.and_eq_true _ _).mp h
      exact hspans.elim (iha ha) (ihb hb)
  | times body least most greedy ih =>
      obtain ⟨n, hleast, hmost, hrounds⟩ := hspans
      rw [emptyOnly.eq_def] at h
      split at h
      case h_6 heq =>
        cases heq
        have hnone : n = 0 := by simpa using hmost 0 rfl
        rw [hnone] at hrounds
        exact hrounds
      case h_7 heq =>
        cases heq
        exact eq_of_rounds (fun _ _ => ih h) hrounds
      all_goals contradiction
  | group index body ih => exact ih h hspans

/-- Leaving out rounds that take nothing does not change what is matched. -/
theorem repeated_spans (e : Expr) (least : Nat) (most : Option Nat) (greedy : Bool) {c d : Cursor} :
    (e.repeated least most greedy).Spans c d ↔ (times e least most greedy).Spans c d := by
  rw [repeated]
  split
  · rename_i hempty
    have hR (c d : Cursor) : e.Spans c d → c = d := eq_of_emptyOnly hempty
    simp only [Spans, Option.mem_def, Option.some.injEq, forall_eq']
    constructor
    · rintro ⟨n, hleast, hmost, hrounds⟩
      cases n with
      | zero => exact ⟨0, by omega, fun _ _ => Nat.zero_le _, hrounds⟩
      | succ n =>
          obtain ⟨k, hk⟩ : ∃ k, max least 1 = k + 1 := ⟨max least 1 - 1, by omega⟩
          have hround := (rounds_succ_iff hR).mp hrounds
          refine ⟨k + 1, by omega, ?_, (rounds_succ_iff hR).mpr hround⟩
          rintro m rfl
          rw [Option.getD_some] at hmost
          omega
    · rintro ⟨n, hleast, hmost, hrounds⟩
      cases n with
      | zero => exact ⟨0, by omega, Nat.zero_le _, hrounds⟩
      | succ n =>
          have hround := (rounds_succ_iff hR).mp hrounds
          refine ⟨1, by omega, ?_, (rounds_succ_iff hR).mpr hround⟩
          cases most with
          | none => exact Nat.le_max_right _ _
          | some m =>
              have hle := hmost m rfl
              rw [Option.getD_some]
              omega
  · exact Iff.rfl

end Expr

/-! ## Searches -/

/-- A match of a pattern spans the whole text. -/
def SpansAll (p : Pattern) (text : String) : Prop :=
  ∃ last, p.body.Spans (.start text.toList) last ∧ last.rest = []

theorem isSome_matchAt?_iff {p : Pattern} {c : Cursor} :
    (p.matchAt? c).isSome ↔ ∃ d, p.body.Spans c d := by
  rw [matchAt?, Option.isSome_map, List.isSome_head?]
  constructor
  · intro h
    obtain ⟨w, hw⟩ := List.exists_mem_of_ne_nil _ h
    exact ⟨w.cursor, (p.body.ways_realizes.mem_ends _ _).mp (List.mem_map_of_mem hw)⟩
  · rintro ⟨d, hd⟩
    obtain ⟨w, hw, -⟩ := List.mem_map.mp ((p.body.ways_realizes.mem_ends ⟨c, []⟩ d).mpr hd)
    exact List.ne_nil_of_mem hw

/-- What follows a place is the place itself, or follows the next one. -/
theorem follows_iff_of_next? {c next e : Cursor} (h : c.next? = some next) :
    Follows c e ↔ c = e ∨ Follows next e := by
  constructor
  · rintro ⟨taken, hrest, hposition, hbefore⟩
    obtain ⟨position, before, rest⟩ := c
    cases taken with
    | nil =>
        obtain ⟨position', before', rest'⟩ := e
        cases hrest
        cases hposition
        cases hbefore
        exact .inl rfl
    | cons x taken =>
        cases hrest
        cases h
        refine .inr ⟨taken, rfl, ?_, ?_⟩
        · simpa [Nat.add_assoc, Nat.add_comm 1] using hposition
        · rw [hbefore, List.getLast?_cons]
          cases taken.getLast? <;> rfl
  · rintro (rfl | hfollows)
    · exact .refl c
    · exact (Follows.of_next? h).trans hfollows

theorem follows_iff_of_rest_nil {c e : Cursor} (h : c.rest = []) : Follows c e ↔ c = e := by
  refine ⟨fun hfollows => ?_, fun heq => heq ▸ .refl c⟩
  have hposition := hfollows.position_add
  have hle := hfollows.position_le
  rw [h, List.length_nil] at hposition
  exact (Follows.refl c).eq_of_position hfollows (by omega)

theorem isSome_findFrom?_iff {p : Pattern} {room : Nat} {c : Cursor} (h : c.rest.length ≤ room) :
    (p.findFrom? room c).isSome ↔ ∃ e, Follows c e ∧ ∃ d, p.body.Spans e d := by
  induction room generalizing c with
  | zero =>
      have hend : c.rest = [] := List.eq_nil_of_length_eq_zero (Nat.le_zero.mp h)
      simp only [findFrom?, isSome_matchAt?_iff, follows_iff_of_rest_nil hend, exists_eq_left']
  | succ room ih =>
      have hnow := isSome_matchAt?_iff (p := p) (c := c)
      rw [findFrom?]
      cases hmatch : p.matchAt? c with
      | some m =>
          have hspans : ∃ d, p.body.Spans c d := hnow.mp (by rw [hmatch]; rfl)
          exact ⟨fun _ => ⟨c, .refl c, hspans⟩, fun _ => rfl⟩
      | none =>
          have hnone : ¬ ∃ d, p.body.Spans c d := by simpa [hmatch] using hnow
          cases hrest : c.rest with
          | nil =>
              have hnext : c.next? = none := by rw [Cursor.next?, hrest]
              simp only [hnext, Option.bind_none, Option.isSome_none, Bool.false_eq_true,
                follows_iff_of_rest_nil hrest, exists_eq_left', hnone]
          | cons x rest =>
              have hnext : c.next? = some ⟨c.position + 1, some x, rest⟩ := by
                rw [Cursor.next?, hrest]
              rw [hrest] at h
              simp only [hnext, Option.bind_some, ih (c := ⟨_, _, rest⟩) (Nat.le_of_succ_le_succ h),
                follows_iff_of_next? hnext, or_and_right, exists_or, exists_eq_left', hnone,
                false_or]

/-- A pattern occurs in a text where it matches between two of its places. -/
theorem occursIn_iff {p : Pattern} {text : String} :
    p.occursIn text ↔ ∃ c, Follows (.start text.toList) c ∧ ∃ d, p.body.Spans c d :=
  isSome_findFrom?_iff (Nat.le_refl _)

/-- Between the two ends of a text, a match is one of the whole text. -/
theorem occursIn_between_ends {p q : Pattern} (text : String)
    (hbody : p.body = .sequence [.place .textStart, q.body, .place .textEnd]) :
    p.occursIn text ↔ q.SpansAll text := by
  rw [occursIn_iff, hbody]
  constructor
  · rintro ⟨c, ⟨taken, hc⟩, d, c', ⟨hstart, rfl⟩, e, hspans, hend, rfl⟩
    have htaken : taken = [] := by
      simpa [Place.between, hc.before, Cursor.start] using hstart
    subst htaken
    obtain rfl : Cursor.start text.toList = c :=
      (Follows.refl _).eq_of_position ⟨[], hc⟩ hc.position.symm
    exact ⟨e, hspans, by simpa [Place.between] using hend⟩
  · rintro ⟨e, hspans, hend⟩
    refine ⟨_, .refl _, e, _, ⟨rfl, rfl⟩, e, hspans, ?_, rfl⟩
    simp [Place.between, hend]

end Pattern

end AttributeRelease
