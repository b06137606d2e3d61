import AttributeRelease.Release.Criterion

/-!
# All and any

A criterion that does not hold where all members hold is one that holds where some member does not,
and the other way round.  This is so for members that may fail and that may change the state: both
forms give one answer, stop at the same member, and leave the same state behind.
-/

namespace AttributeRelease.Criterion

variable {σ : Type}

/-! ## Going through members

`all` goes on while its members hold, `any` while they do not. -/

/-- Goes through members while they answer `on`, which is the answer if all of them do. -/
def goThrough (on : Bool) (facts : Facts) (q : Question) : List (Criterion σ) → σ → Answer σ
  | [], s => (.ok on, s)
  | c :: rest, s =>
    match c.evaluate facts q s with
    | (.error e, s) => (.error e, s)
    | (.ok b, s) => if b = on then goThrough on facts q rest s else (.ok b, s)

theorem evaluateAll_eq_goThrough (facts : Facts) (q : Question) (members : List (Criterion σ))
    (s : σ) : evaluateAll facts q members s = goThrough true facts q members s := by
  induction members generalizing s with
  | nil => rfl
  | cons c rest ih =>
      rw [evaluateAll, goThrough]
      rcases c.evaluate facts q s with ⟨_ | _ | _, s'⟩
      · rfl
      · rfl
      · exact ih s'

theorem evaluateAny_eq_goThrough (facts : Facts) (q : Question) (members : List (Criterion σ))
    (s : σ) : evaluateAny facts q members s = goThrough false facts q members s := by
  induction members generalizing s with
  | nil => rfl
  | cons c rest ih =>
      rw [evaluateAny, goThrough]
      rcases c.evaluate facts q s with ⟨_ | _ | _, s'⟩
      · rfl
      · exact ih s'
      · rfl

theorem evaluate_not (c : Criterion σ) (facts : Facts) (q : Question) (s : σ) :
    (not c).evaluate facts q s = negate (c.evaluate facts q s) := by
  rw [evaluate]

/-- Without members `all` does not hold, so one is needed here. -/
theorem evaluate_all {members : List (Criterion σ)} (h : members ≠ []) (facts : Facts)
    (q : Question) (s : σ) :
    (all members).evaluate facts q s = goThrough true facts q members s := by
  cases members with
  | nil => exact absurd rfl h
  | cons c rest => exact evaluateAll_eq_goThrough facts q (c :: rest) s

theorem evaluate_any (members : List (Criterion σ)) (facts : Facts) (q : Question) (s : σ) :
    (any members).evaluate facts q s = goThrough false facts q members s := by
  rw [evaluate, evaluateAny_eq_goThrough]

/-- Members that are turned over are gone through while they answer the opposite. -/
theorem goThrough_map_not (on : Bool) (facts : Facts) (q : Question) (members : List (Criterion σ))
    (s : σ) :
    goThrough (!on) facts q (members.map not) s = negate (goThrough on facts q members s) := by
  induction members generalizing s with
  | nil => rfl
  | cons c rest ih =>
      rw [List.map_cons, goThrough, goThrough, evaluate_not]
      rcases c.evaluate facts q s with ⟨e | b, s'⟩
      · rfl
      · by_cases hb : b = on
        · simp only [negate, hb, if_true]
          exact ih s'
        · have hnot : (!b) ≠ !on := fun h => hb (Bool.not_inj h)
          simp only [negate, hb, hnot, if_false]

theorem evaluate_not_all {members : List (Criterion σ)} (h : members ≠ []) (facts : Facts)
    (q : Question) (s : σ) :
    (not (all members)).evaluate facts q s = negate (goThrough true facts q members s) := by
  rw [evaluate_not, evaluate_all h]

theorem evaluate_not_any (members : List (Criterion σ)) (facts : Facts) (q : Question) (s : σ) :
    (not (any members)).evaluate facts q s = negate (goThrough false facts q members s) := by
  rw [evaluate_not, evaluate_any]

theorem evaluate_any_not (members : List (Criterion σ)) (facts : Facts) (q : Question) (s : σ) :
    (any (members.map not)).evaluate facts q s = negate (goThrough true facts q members s) := by
  rw [evaluate_any]
  exact goThrough_map_not true facts q members s

theorem evaluate_all_not {members : List (Criterion σ)} (h : members ≠ []) (facts : Facts)
    (q : Question) (s : σ) :
    (all (members.map not)).evaluate facts q s = negate (goThrough false facts q members s) := by
  have hmap : members.map not ≠ [] := by simpa using h
  rw [evaluate_all hmap]
  exact goThrough_map_not false facts q members s

/-! ## Members that are asked -/

/-- The criterion, with a list of what was asked that it puts itself on. -/
def watched (c : Criterion σ) : Criterion (σ × List (Criterion σ)) :=
  .custom {
    evaluate := fun facts q state =>
      let answer := c.evaluate facts q state.1
      (answer.1, answer.2, state.2 ++ [c])
    permitsAll := c.permitsAll
    check := c.check }

/-- The answer, with a list of what was asked behind the state. -/
def withAsked (answer : Answer σ) (asked : List (Criterion σ)) :
    Answer (σ × List (Criterion σ)) := (answer.1, answer.2, asked)

theorem negate_withAsked (answer : Answer σ) (asked : List (Criterion σ)) :
    negate (withAsked answer asked) = withAsked (negate answer) asked := by
  obtain ⟨result, s⟩ := answer
  cases result <;> rfl

/-- The members that are asked come first, and they are asked in their order. -/
theorem goThrough_watched (on : Bool) (facts : Facts) (q : Question) (members : List (Criterion σ))
    (s : σ) (earlier : List (Criterion σ)) :
    ∃ asked, asked <+: members ∧
      goThrough on facts q (members.map watched) (s, earlier) =
        withAsked (goThrough on facts q members s) (earlier ++ asked) := by
  induction members generalizing s earlier with
  | nil => exact ⟨[], List.prefix_refl [], by rw [List.append_nil]; rfl⟩
  | cons c rest ih =>
      have hfirst : (watched c).evaluate facts q (s, earlier) =
          withAsked (c.evaluate facts q s) (earlier ++ [c]) := rfl
      have hhead : [c] <+: c :: rest := ⟨rest, rfl⟩
      rw [List.map_cons, goThrough, goThrough, hfirst]
      rcases c.evaluate facts q s with ⟨e | b, s'⟩
      · exact ⟨[c], hhead, rfl⟩
      · by_cases hb : b = on
        · obtain ⟨asked, hprefix, hrun⟩ := ih s' (earlier ++ [c])
          refine ⟨c :: asked, (List.prefix_cons_inj c).mpr hprefix, ?_⟩
          simp only [withAsked, hb, if_true, List.append_cons earlier c asked]
          exact hrun
        · refine ⟨[c], hhead, ?_⟩
          simp only [withAsked, hb, if_false]

/-- A way to put members together into one criterion, whatever state they keep. -/
abbrev Combination := ∀ {τ : Type}, List (Criterion τ) → Criterion τ

/-- Members that are put together give an answer, and the ones that are asked for it come first
among them. -/
structure Consults (facts : Facts) (q : Question) (s : σ) (members : List (Criterion σ))
    (combine : Combination) (result : Answer σ) (asked : List (Criterion σ)) : Prop where
  answer : (combine members).evaluate facts q s = result
  watched : (combine (members.map watched)).evaluate facts q (s, []) = withAsked result asked
  comesFirst : asked <+: members

/-- What goes through the members and turns the answer over asks the same ones, however it is put
together. -/
theorem exists_consults (on : Bool) {members : List (Criterion σ)} (nonempty : members ≠ [])
    (facts : Facts) (q : Question) (s : σ) :
    ∃ asked, ∀ combine : Combination,
      (∀ {τ : Type} {members : List (Criterion τ)}, members ≠ [] → ∀ s,
        (combine members).evaluate facts q s = negate (goThrough on facts q members s)) →
      Consults facts q s members combine (negate (goThrough on facts q members s)) asked := by
  obtain ⟨asked, hprefix, hrun⟩ := goThrough_watched on facts q members s []
  refine ⟨asked, fun combine hcombine => ⟨hcombine nonempty s, ?_, hprefix⟩⟩
  have hwatched : members.map watched ≠ [] := by simpa using nonempty
  rw [hcombine hwatched, hrun, negate_withAsked, List.nil_append]

/-- Members of which not all hold are members of which some does not, and members of which none
holds are members of which all do not.  Both forms of either give the same answer, with the same
fault if there is one, and ask the same members, which come first among all. -/
theorem not_all_or_any {members : List (Criterion σ)} (nonempty : members ≠ []) (facts : Facts)
    (q : Question) (s : σ) :
    (∃ result asked,
      Consults facts q s members (fun members => .not (.all members)) result asked ∧
      Consults facts q s members (fun members => .any (members.map .not)) result asked) ∧
    ∃ result asked,
      Consults facts q s members (fun members => .not (.any members)) result asked ∧
      Consults facts q s members (fun members => .all (members.map .not)) result asked := by
  constructor
  · obtain ⟨asked, hasked⟩ := exists_consults true nonempty facts q s
    refine ⟨_, asked, hasked _ fun h s => ?_, hasked _ fun _ s => ?_⟩
    · exact evaluate_not_all h facts q s
    · exact evaluate_any_not _ facts q s
  · obtain ⟨asked, hasked⟩ := exists_consults false nonempty facts q s
    refine ⟨_, asked, hasked _ fun _ s => ?_, hasked _ fun h s => ?_⟩
    · exact evaluate_not_any _ facts q s
    · exact evaluate_all_not h facts q s

/-- Without members there is nobody who does not hold, but `all` does not hold either. -/
example (facts : Facts) (q : Question) (s : σ) :
    (not (all [])).evaluate facts q s = (.ok true, s) ∧
      (any []).evaluate facts q s = (.ok false, s) := ⟨rfl, rfl⟩

/-! ## Members that count -/

/-- A criterion that counts how often criteria like it were asked. -/
def counting (result : Except CriterionError Bool) : Criterion Nat :=
  .custom { evaluate := fun _ _ asked => (result, asked + 1) }

/-- The second member fails, and the third one is never asked. -/
def failing : List (Criterion Nat) :=
  [counting (.ok true), counting (.error (.custom "no answer")), counting (.ok false)]

theorem not_all_or_any_failing : failing ≠ [] ∧
    Consults ⟨[], .empty⟩ (.denies "role" (.string "guest")) 0 failing
      (fun members => .not (.all members)) (.error (.custom "no answer"), 2) (failing.take 2) ∧
    Consults ⟨[], .empty⟩ (.denies "role" (.string "guest")) 0 failing
      (fun members => .any (members.map .not)) (.error (.custom "no answer"), 2)
      (failing.take 2) := by
  have hnonempty : failing ≠ [] := List.cons_ne_nil _ _
  obtain ⟨⟨result, asked, hnot, hany⟩, -⟩ :=
    not_all_or_any hnonempty ⟨[], .empty⟩ (.denies "role" (.string "guest")) 0
  have hresult : (.error (.custom "no answer"), 2) = result := hnot.answer
  have hasked : failing.take 2 = asked := congrArg (·.2.2) hnot.watched
  rw [hresult, hasked]
  exact ⟨hnonempty, hnot, hany⟩

end AttributeRelease.Criterion
