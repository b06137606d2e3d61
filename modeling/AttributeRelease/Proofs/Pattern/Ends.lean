import AttributeRelease.Pattern.Matching
import Mathlib.Logic.Relation

/-!
# Where ways end

A search lists ways to match, and keeps one to every place.  What it finds is compared with a
relation between places that does not say how they are searched for: the ways from a place end
where the relation says, whatever order they are listed in.
-/

namespace AttributeRelease.Pattern

namespace Cursor

/-- The characters from one place to another of the same text. -/
structure Leads (c : Cursor) (taken : List Char) (d : Cursor) : Prop where
  rest : c.rest = taken ++ d.rest
  position : d.position = c.position + taken.length
  before : d.before = taken.getLast?.or c.before

/-- A place of the same text, not before the first one. -/
def Follows (c d : Cursor) : Prop := ∃ taken, c.Leads taken d

namespace Follows

variable {c d e : Cursor}

theorem refl (c : Cursor) : Follows c c := ⟨[], rfl, rfl, rfl⟩

theorem of_next? (h : c.next? = some d) : Follows c d := by
  obtain ⟨position, before, rest⟩ := c
  cases rest with
  | nil => cases h
  | cons x rest =>
      cases h
      exact ⟨[x], rfl, rfl, rfl⟩

theorem trans (hd : Follows c d) (he : Follows d e) : Follows c e := by
  obtain ⟨first, hfirst⟩ := hd
  obtain ⟨second, hsecond⟩ := he
  refine ⟨first ++ second, ?_, ?_, ?_⟩
  · rw [hfirst.rest, hsecond.rest, List.append_assoc]
  · rw [hsecond.position, hfirst.position, List.length_append, Nat.add_assoc]
  · rw [hsecond.before, hfirst.before, List.getLast?_append, Option.or_assoc]

/-- How far a place lies on says which place it is. -/
theorem eq_of_position (hd : Follows c d) (he : Follows c e) (h : d.position = e.position) :
    d = e := by
  obtain ⟨first, hfirst⟩ := hd
  obtain ⟨second, hsecond⟩ := he
  have hlength : first.length = second.length := by
    rw [hfirst.position, hsecond.position] at h
    exact Nat.add_left_cancel h
  obtain ⟨rfl, hrest⟩ := List.append_inj (hfirst.rest.symm.trans hsecond.rest) hlength
  obtain ⟨position, before, rest⟩ := d
  have hbefore := hfirst.before.trans hsecond.before.symm
  cases h
  cases hbefore
  cases hrest
  rfl

/-- What lies between two places is missing from what is left. -/
theorem position_add (h : Follows c d) :
    d.position + d.rest.length = c.position + c.rest.length := by
  obtain ⟨taken, htaken⟩ := h
  rw [htaken.position, htaken.rest, List.length_append, Nat.add_assoc]

theorem position_le (h : Follows c d) : c.position ≤ d.position := by
  obtain ⟨taken, htaken⟩ := h
  exact htaken.position ▸ Nat.le_add_right _ _

end Follows

end Cursor

open Cursor (Follows)

/-! ## Rounds -/

/-- A number of rounds, one after the other. -/
def Rounds (R : Cursor → Cursor → Prop) : Nat → Cursor → Cursor → Prop
  | 0 => Eq
  | n + 1 => Relation.Comp R (Rounds R n)

section Rounds

variable {R : Cursor → Cursor → Prop} {c d : Cursor}

theorem reflTransGen_iff_rounds : Relation.ReflTransGen R c d ↔ ∃ n, Rounds R n c d := by
  constructor
  · intro h
    induction h using Relation.ReflTransGen.head_induction_on with
    | refl => exact ⟨0, rfl⟩
    | head hround _ ih =>
        obtain ⟨n, hn⟩ := ih
        exact ⟨n + 1, _, hround, hn⟩
  · rintro ⟨n, hn⟩
    induction n generalizing c with
    | zero => exact hn ▸ .refl
    | succ n ih =>
        obtain ⟨e, hround, hrest⟩ := hn
        exact .head hround (ih hrest)

theorem transGen_iff_rounds : Relation.TransGen R c d ↔ ∃ n, Rounds R (n + 1) c d := by
  rw [Relation.TransGen.head'_iff]
  constructor
  · rintro ⟨e, hround, hrest⟩
    obtain ⟨n, hn⟩ := reflTransGen_iff_rounds.mp hrest
    exact ⟨n, e, hround, hn⟩
  · rintro ⟨n, e, hround, hrest⟩
    exact ⟨e, hround, reflTransGen_iff_rounds.mpr ⟨n, hrest⟩⟩

theorem rounds_add {m n : Nat} :
    Rounds R (m + n) c d ↔ Relation.Comp (Rounds R m) (Rounds R n) c d := by
  induction m generalizing c with
  | zero =>
      rw [Nat.zero_add]
      exact ⟨fun h => ⟨c, rfl, h⟩, fun ⟨_, heq, h⟩ => heq ▸ h⟩
  | succ m ih =>
      rw [Nat.succ_add]
      constructor
      · rintro ⟨e, hround, hrest⟩
        obtain ⟨f, hm, hn⟩ := ih.mp hrest
        exact ⟨f, ⟨e, hround, hm⟩, hn⟩
      · rintro ⟨f, ⟨e, hround, hm⟩, hn⟩
        exact ⟨e, hround, ih.mpr ⟨f, hm, hn⟩⟩

theorem follows_of_reflTransGen (hR : ∀ c d, R c d → Follows c d)
    (h : Relation.ReflTransGen R c d) : Follows c d := by
  induction h with
  | refl => exact .refl c
  | tail _ hround ih => exact ih.trans (hR _ _ hround)

end Rounds

namespace Way

/-- The places where ways end. -/
def ends (ways : List Way) : List Cursor := ways.map (·.cursor)

@[simp] theorem ends_nil : ends [] = [] := rfl

@[simp] theorem ends_cons (w : Way) (ways : List Way) :
    ends (w :: ways) = w.cursor :: ends ways := rfl

@[simp] theorem ends_append (ways more : List Way) : ends (ways ++ more) = ends ways ++ ends more :=
  List.map_append

@[simp] theorem ends_reverse (ways : List Way) : ends ways.reverse = (ends ways).reverse :=
  List.map_reverse

theorem mem_ends_flatMap {ways : List Way} {f : Way → List Way} {d : Cursor} :
    d ∈ ends (ways.flatMap f) ↔ ∃ w ∈ ways, d ∈ ends (f w) := by
  simp only [ends, List.map_flatMap, List.mem_flatMap]

/-! ## One way to every place -/

section Firsts

variable {c : Cursor}

/-- Of places in one text none is lost. -/
theorem mem_ends_add {w : Way} {found : List Way} (hw : Follows c w.cursor)
    (hfound : ∀ d ∈ ends found, Follows c d) {d : Cursor} :
    d ∈ ends (w.add found) ↔ d = w.cursor ∨ d ∈ ends found := by
  rw [add]
  split
  next hknown =>
    obtain ⟨known, hmem, hposition⟩ := List.any_eq_true.mp hknown
    have hends : known.cursor ∈ ends found := List.mem_map_of_mem hmem
    have heq : known.cursor = w.cursor :=
      (hfound _ hends).eq_of_position hw (by simpa using hposition)
    exact ⟨.inr, fun h => h.elim (fun h => h ▸ heq ▸ hends) id⟩
  next => rw [ends_cons, List.mem_cons]

theorem mem_ends_foldl_add {ways found : List Way} (hways : ∀ d ∈ ends ways, Follows c d)
    (hfound : ∀ d ∈ ends found, Follows c d) {d : Cursor} :
    d ∈ ends (ways.foldl (fun found w => w.add found) found) ↔ d ∈ ends found ∨ d ∈ ends ways := by
  induction ways generalizing found with
  | nil => simp
  | cons w ways ih =>
      rw [ends_cons, List.forall_mem_cons] at hways
      have hmem {d : Cursor} := mem_ends_add (d := d) hways.1 hfound
      have hfound' : ∀ d ∈ ends (w.add found), Follows c d := fun d hd =>
        (hmem.mp hd).elim (· ▸ hways.1) (hfound d)
      rw [List.foldl_cons, ih hways.2 hfound', hmem, ends_cons, List.mem_cons, or_assoc,
        or_left_comm]

theorem mem_ends_firsts {ways : List Way} (hways : ∀ d ∈ ends ways, Follows c d) {d : Cursor} :
    d ∈ ends (firsts ways) ↔ d ∈ ends ways := by
  rw [firsts, ends_reverse, List.mem_reverse, mem_ends_foldl_add hways (by simp)]
  simp

end Firsts

/-! ## Searches and relations -/

/-- The ways from a place end where the relation says. -/
structure Realizes (f : Way → List Way) (R : Cursor → Cursor → Prop) : Prop where
  follows : ∀ c d, R c d → Follows c d
  mem_ends : ∀ w d, d ∈ ends (f w) ↔ R w.cursor d

namespace Realizes

variable {f g : Way → List Way} {R S : Cursor → Cursor → Prop}

theorem congr (hf : Realizes f R) (h : ∀ c d, R c d ↔ S c d) : Realizes f S where
  follows c d hS := hf.follows c d ((h c d).mpr hS)
  mem_ends w d := (hf.mem_ends w d).trans (h w.cursor d)

/-- No way is lost when only the first one to every place is kept. -/
theorem firsts (hf : Realizes f R) : Realizes (fun w => Way.firsts (f w)) R where
  follows := hf.follows
  mem_ends w d := by
    rw [mem_ends_firsts fun d hd => hf.follows w.cursor d ((hf.mem_ends w d).mp hd), hf.mem_ends]

theorem pure : Realizes (fun w => [w]) Eq where
  follows c _ h := h ▸ .refl c
  mem_ends w d := by simp [eq_comm]

theorem append (hf : Realizes f R) (hg : Realizes g S) :
    Realizes (fun w => f w ++ g w) (fun c d => R c d ∨ S c d) where
  follows c d h := h.elim (hf.follows c d) (hg.follows c d)
  mem_ends w d := by rw [ends_append, List.mem_append, hf.mem_ends, hg.mem_ends]

theorem flatMap (hf : Realizes f R) (hg : Realizes g S) :
    Realizes (fun w => (f w).flatMap g) (Relation.Comp R S) where
  follows _ _ := fun ⟨_, hR, hS⟩ => (hf.follows _ _ hR).trans (hg.follows _ _ hS)
  mem_ends w d := by
    rw [mem_ends_flatMap]
    constructor
    · rintro ⟨next, hnext, hd⟩
      have hends : next.cursor ∈ ends (f w) := List.mem_map_of_mem hnext
      exact ⟨next.cursor, (hf.mem_ends w _).mp hends, (hg.mem_ends next d).mp hd⟩
    · rintro ⟨e, hR, hS⟩
      obtain ⟨next, hnext, rfl⟩ := List.mem_map.mp ((hf.mem_ends w e).mpr hR)
      exact ⟨next, hnext, (hg.mem_ends next d).mpr hS⟩

theorem andThen (hf : Realizes f R) (hg : Realizes g S) :
    Realizes (fun w => Way.andThen (f w) g) (Relation.Comp R S) :=
  (hf.flatMap hg).firsts

/-- A way that goes on, or one that stops here; the order does not matter. -/
theorem orHere (hf : Realizes f R) (greedy : Bool) :
    Realizes (fun w => Way.firsts (if greedy then f w ++ [w] else w :: f w))
      (fun c d => R c d ∨ c = d) := by
  cases greedy with
  | true => exact (hf.append pure).firsts
  | false => exact (pure.append hf).firsts.congr fun _ _ => or_comm

theorem repeated (hf : Realizes f R) (n : Nat) : Realizes (Way.repeated f n) (Rounds R n) := by
  induction n with
  | zero => exact pure
  | succ n ih => exact hf.andThen ih

theorem upTo (hf : Realizes f R) (greedy : Bool) (n : Nat) :
    Realizes (Way.upTo f greedy n) (fun c d => ∃ m ≤ n, Rounds R m c d) := by
  induction n with
  | zero => exact pure.congr fun c d => by simp [Rounds]
  | succ n ih =>
      refine ((hf.andThen ih).orHere greedy).congr fun c d => ⟨?_, ?_⟩
      · rintro (⟨e, hround, m, hm, hrest⟩ | rfl)
        · exact ⟨m + 1, Nat.succ_le_succ hm, e, hround, hrest⟩
        · exact ⟨0, Nat.zero_le _, rfl⟩
      · rintro ⟨m, hm, hrounds⟩
        cases m with
        | zero => exact .inr hrounds
        | succ m =>
            obtain ⟨e, hround, hrest⟩ := hrounds
            exact .inl ⟨e, hround, m, Nat.le_of_succ_le_succ hm, hrest⟩

end Realizes

end Way

end AttributeRelease.Pattern
