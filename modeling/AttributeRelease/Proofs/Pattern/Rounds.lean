import AttributeRelease.Proofs.Pattern.Ends

/-!
# Rounds of a repetition

A repetition without a bound is searched depth first, and from no place twice.  That loses nothing:
when the search is over, every place it started from has all its successors among the places it
found and among those it started from, so that these are closed under one more round.
-/

namespace AttributeRelease.Pattern

open Cursor (Follows)
open Relation (TransGen ReflTransGen)

namespace Way

variable {f : Way → List Way} {R : Cursor → Cursor → Prop} {greedy : Bool} {c : Cursor}

/-- One round of a repetition led to a way. -/
def visit (f : Way → List Way) (greedy : Bool) (room : Nat) (state : List Way × List Nat)
    (next : Way) : List Way × List Nat :=
  if greedy then
    let (found, started) := rounds f greedy room next state
    (next.add found, started)
  else rounds f greedy room next (next.add state.1, state.2)

theorem rounds_succ (f : Way → List Way) (greedy : Bool) (room : Nat) (w : Way)
    (state : List Way × List Nat) :
    rounds f greedy (room + 1) w state =
      if state.2.contains w.cursor.position then state
      else (f w).foldl (visit f greedy room) (state.1, w.cursor.position :: state.2) := rfl

/-- What a search from a place knows more at a later time.  All that was started since then is
finished, whatever was still open before. -/
structure Explored (R : Cursor → Cursor → Prop) (c : Cursor)
    (before after : List Way × List Nat) : Prop where
  found : ends before.1 ⊆ ends after.1
  started : before.2 ⊆ after.2
  finished : ∀ d, ReflTransGen R c d → d.position ∈ after.2 →
    d.position ∈ before.2 ∨ ∀ e, R d e → e ∈ ends after.1 ∧ e.position ∈ after.2
  sound : ∀ d ∈ ends after.1, TransGen R c d

namespace Explored

variable {first second third : List Way × List Nat}

theorem refl (h : ∀ d ∈ ends first.1, TransGen R c d) : Explored R c first first :=
  ⟨fun _ => id, fun _ => id, fun _ _ => .inl, h⟩

theorem trans (hfirst : Explored R c first second) (hsecond : Explored R c second third) :
    Explored R c first third where
  found _ hd := hsecond.found (hfirst.found hd)
  started _ hn := hsecond.started (hfirst.started hn)
  finished d hd hstarted := by
    rcases hsecond.finished d hd hstarted with hbefore | hdone
    · refine (hfirst.finished d hd hbefore).imp_right fun hdone e he => ?_
      exact ⟨hsecond.found (hdone e he).1, hsecond.started (hdone e he).2⟩
    · exact .inr hdone
  sound := hsecond.sound

end Explored

/-- A way that is found is added to what is known. -/
theorem explored_add (hR : ∀ c d, R c d → Follows c d) {state : List Way × List Nat} {w : Way}
    (hw : TransGen R c w.cursor) (h : ∀ d ∈ ends state.1, TransGen R c d) :
    Explored R c state (w.add state.1, state.2) ∧ w.cursor ∈ ends (w.add state.1) := by
  have hfollows {d : Cursor} (hd : TransGen R c d) : Follows c d :=
    follows_of_reflTransGen hR hd.to_reflTransGen
  have hmem {d : Cursor} : d ∈ ends (w.add state.1) ↔ d = w.cursor ∨ d ∈ ends state.1 :=
    mem_ends_add (hfollows hw) fun d hd => hfollows (h d hd)
  refine ⟨⟨fun d hd => hmem.mpr (.inr hd), fun _ => id, fun _ _ => .inl, fun d hd => ?_⟩,
    hmem.mpr (.inl rfl)⟩
  rcases hmem.mp hd with rfl | hd
  · exact hw
  · exact h d hd

/-- There is room for a search from a place, or it was started before. -/
def Fits (room : Nat) (started : List Nat) (d : Cursor) : Prop :=
  d.position ∈ started ∨ d.rest.length < room

/-- What a search does from every place, with some room. -/
def Explores (f : Way → List Way) (R : Cursor → Cursor → Prop) (greedy : Bool) (room : Nat) :
    Prop :=
  ∀ (c : Cursor) (w : Way) (state : List Way × List Nat), ReflTransGen R c w.cursor →
    Fits room state.2 w.cursor → (∀ d ∈ ends state.1, TransGen R c d) →
    Explored R c state (rounds f greedy room w state) ∧
      w.cursor.position ∈ (rounds f greedy room w state).2

theorem visit_explored (hf : Realizes f R) {room : Nat} (ih : Explores f R greedy room)
    {state : List Way × List Nat} {next : Way} (hnext : TransGen R c next.cursor)
    (hfits : Fits room state.2 next.cursor) (hstate : ∀ d ∈ ends state.1, TransGen R c d) :
    Explored R c state (visit f greedy room state next) ∧
      next.cursor ∈ ends (visit f greedy room state next).1 ∧
      next.cursor.position ∈ (visit f greedy room state next).2 := by
  cases greedy with
  | true =>
      obtain ⟨hrounds, hstarted⟩ := ih c next state hnext.to_reflTransGen hfits hstate
      obtain ⟨hadd, hfound⟩ := explored_add hf.follows hnext hrounds.sound
      exact ⟨hrounds.trans hadd, hfound, hstarted⟩
  | false =>
      obtain ⟨hadd, hfound⟩ := explored_add hf.follows hnext hstate
      obtain ⟨hrounds, hstarted⟩ :=
        ih c next (next.add state.1, state.2) hnext.to_reflTransGen hfits hadd.sound
      exact ⟨hadd.trans hrounds, hrounds.found hfound, hstarted⟩

theorem foldl_visit_explored (hf : Realizes f R) {room : Nat} (ih : Explores f R greedy room)
    {nexts : List Way} (state : List Way × List Nat)
    (hstate : ∀ d ∈ ends state.1, TransGen R c d)
    (hnexts : ∀ d ∈ ends nexts, TransGen R c d ∧ Fits room state.2 d) :
    Explored R c state (nexts.foldl (visit f greedy room) state) ∧
      ∀ d ∈ ends nexts, d ∈ ends (nexts.foldl (visit f greedy room) state).1 ∧
        d.position ∈ (nexts.foldl (visit f greedy room) state).2 := by
  induction nexts generalizing state with
  | nil => exact ⟨.refl hstate, by simp⟩
  | cons next nexts hrest =>
      rw [ends_cons, List.forall_mem_cons] at hnexts
      obtain ⟨⟨hnext, hfits⟩, hlater⟩ := hnexts
      obtain ⟨hvisit, hfound, hstarted⟩ := visit_explored hf ih hnext hfits hstate
      have hlater' : ∀ d ∈ ends nexts,
          TransGen R c d ∧ Fits room (visit f greedy room state next).2 d := fun d hd =>
        ⟨(hlater d hd).1, (hlater d hd).2.imp_left fun h => hvisit.started h⟩
      obtain ⟨hfold, hdone⟩ := hrest _ hvisit.sound hlater'
      rw [List.foldl_cons, ends_cons, List.forall_mem_cons]
      exact ⟨hvisit.trans hfold, ⟨hfold.found hfound, hfold.started hstarted⟩, hdone⟩

/-- By induction on the room: what a round leads to is a place that was started from, or lies
further on and needs less room. -/
theorem rounds_explored (hf : Realizes f R) (room : Nat) : Explores f R greedy room := by
  induction room with
  | zero =>
      rintro c w state - (hstarted | hroom) hstate
      · exact ⟨.refl hstate, hstarted⟩
      · cases hroom
  | succ room ih =>
      intro c w state hw hfits hstate
      rw [rounds_succ]
      split
      next hstarted => exact ⟨.refl hstate, List.contains_iff_mem.mp hstarted⟩
      next hnew =>
        have hroom : w.cursor.rest.length < room + 1 :=
          hfits.resolve_left fun h => hnew (List.contains_iff_mem.mpr h)
        have hnexts : ∀ d ∈ ends (f w),
            TransGen R c d ∧ Fits room (w.cursor.position :: state.2) d := by
          intro d hd
          have hround : R w.cursor d := (hf.mem_ends w d).mp hd
          have hposition := (hf.follows _ _ hround).position_add
          refine ⟨.tail' hw hround, ?_⟩
          by_cases hsame : d.position = w.cursor.position
          · exact .inl (hsame ▸ List.mem_cons_self)
          · have hle := (hf.follows _ _ hround).position_le
            exact .inr (by omega)
        obtain ⟨hfold, hdone⟩ := foldl_visit_explored hf ih
          (state.1, w.cursor.position :: state.2) hstate hnexts
        refine ⟨⟨hfold.found, fun n hn => hfold.started (List.mem_cons_of_mem _ hn), ?_,
          hfold.sound⟩, hfold.started List.mem_cons_self⟩
        intro d hd hstarted
        rcases hfold.finished d hd hstarted with hbefore | hsuccessors
        · rcases List.mem_cons.mp hbefore with hsame | hbefore
          · obtain rfl : d = w.cursor := (follows_of_reflTransGen hf.follows hd).eq_of_position
              (follows_of_reflTransGen hf.follows hw) hsame
            exact .inr fun e he => hdone e ((hf.mem_ends w e).mpr he)
          · exact .inl hbefore
        · exact .inr hsuccessors

namespace Realizes

/-- From where a search starts, everything that rounds lead to is found. -/
theorem onceOrMore (hf : Realizes f R) (greedy : Bool) :
    Realizes (Way.onceOrMore f greedy) (TransGen R) where
  follows c d h := follows_of_reflTransGen hf.follows h.to_reflTransGen
  mem_ends w d := by
    have hexplores : Explores f R greedy (w.cursor.rest.length + 2) := rounds_explored hf _
    obtain ⟨hexplored, hstart⟩ := hexplores w.cursor w ([], []) .refl (.inr (by omega)) (by simp)
    rw [Way.onceOrMore, ends_reverse, List.mem_reverse]
    refine ⟨hexplored.sound d, fun h => ?_⟩
    have hclosed {d : Cursor} (hd : ReflTransGen R w.cursor d)
        (hstarted : d.position ∈ (rounds f greedy (w.cursor.rest.length + 2) w ([], [])).2) :=
      (hexplored.finished d hd hstarted).resolve_left List.not_mem_nil
    suffices hall : d ∈ ends (rounds f greedy (w.cursor.rest.length + 2) w ([], [])).1 ∧
        d.position ∈ (rounds f greedy (w.cursor.rest.length + 2) w ([], [])).2 from hall.1
    induction h with
    | single hround => exact hclosed .refl hstart _ hround
    | tail hrounds hround ih => exact hclosed hrounds.to_reflTransGen ih.2 _ hround

theorem atLeast (hf : Realizes f R) (greedy : Bool) (n : Nat) :
    Realizes (Way.atLeast f greedy n) (fun c d => ∃ m ≥ n, Rounds R m c d) := by
  cases n with
  | zero =>
      refine ((hf.onceOrMore greedy).orHere greedy).congr fun c d => ?_
      rw [transGen_iff_rounds]
      constructor
      · rintro (⟨m, hm⟩ | rfl)
        · exact ⟨m + 1, Nat.zero_le _, hm⟩
        · exact ⟨0, Nat.zero_le _, rfl⟩
      · rintro ⟨m, -, hm⟩
        cases m with
        | zero => exact .inr hm
        | succ m => exact .inl ⟨m, hm⟩
  | succ n =>
      refine ((hf.repeated n).andThen (hf.onceOrMore greedy)).congr fun c d => ?_
      constructor
      · rintro ⟨e, hn, hmore⟩
        obtain ⟨m, hm⟩ := transGen_iff_rounds.mp hmore
        exact ⟨n + (m + 1), by omega, rounds_add.mpr ⟨e, hn, hm⟩⟩
      · rintro ⟨m, hle, hm⟩
        obtain ⟨k, rfl⟩ : ∃ k, m = n + (k + 1) := ⟨m - (n + 1), by omega⟩
        obtain ⟨e, hn, hk⟩ := rounds_add.mp hm
        exact ⟨e, hn, transGen_iff_rounds.mpr ⟨k, hk⟩⟩

end Realizes

end Way

end AttributeRelease.Pattern
