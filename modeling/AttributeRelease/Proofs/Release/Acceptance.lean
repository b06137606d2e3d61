import AttributeRelease.Proofs.Checks
import AttributeRelease.Release.Engine
import Mathlib.Data.List.Induction
import Mathlib.Data.List.Nodup
import Mathlib.Tactic.Push

/-!
# Policies that are accepted

A group of policies is accepted where every part of it can be used, however deep it stands in the
criteria: the check goes through all of them and ends at the first fault.  An engine releases by the
group that it accepted last.  A group that it refuses makes no difference to it.
-/

namespace AttributeRelease

variable {σ : Type}

/-! ## Criteria -/

namespace Criterion

/-- A criterion that another one is built from, at any depth; a criterion counts as its own part. -/
inductive PartOf : Criterion σ → Criterion σ → Prop
  | self (c : Criterion σ) : PartOf c c
  | all {c d : Criterion σ} {members : List (Criterion σ)} (member : d ∈ members)
      (part : PartOf c d) : PartOf c (.all members)
  | any {c d : Criterion σ} {members : List (Criterion σ)} (member : d ∈ members)
      (part : PartOf c d) : PartOf c (.any members)
  | not {c d : Criterion σ} (part : PartOf c d) : PartOf c (.not d)

/-- What a criterion has to have, whatever its parts are: members where it is built from some, and a
least number that is no greater than the greatest one.  A criterion of the embedding program says
for itself whether it can be used. -/
def WellFormed : Criterion σ → Prop
  | .all members | .any members => members ≠ []
  | .count _ least most => least ≤ most
  | .custom c => c.check = .ok ()
  | _ => True

/-- A criterion all parts of which are well formed. -/
def Usable (c : Criterion σ) : Prop := ∀ d : Criterion σ, d.PartOf c → d.WellFormed

theorem usable_all_iff {members : List (Criterion σ)} :
    (all members).Usable ↔ members ≠ [] ∧ ∀ c ∈ members, c.Usable := by
  constructor
  · intro h
    exact ⟨h _ (.self _), fun c hc d hd => h d (.all hc hd)⟩
  · rintro ⟨hne, hmembers⟩ d hd
    cases hd with
    | self => exact hne
    | all member part => exact hmembers _ member d part

theorem usable_any_iff {members : List (Criterion σ)} :
    (any members).Usable ↔ members ≠ [] ∧ ∀ c ∈ members, c.Usable := by
  constructor
  · intro h
    exact ⟨h _ (.self _), fun c hc d hd => h d (.any hc hd)⟩
  · rintro ⟨hne, hmembers⟩ d hd
    cases hd with
    | self => exact hne
    | any member part => exact hmembers _ member d part

theorem usable_not_iff {c : Criterion σ} : (Criterion.not c).Usable ↔ c.Usable := by
  constructor
  · exact fun h d hd => h d (.not hd)
  · intro h d hd
    cases hd with
    | self => trivial
    | not part => exact h d part

/-- A criterion that is built from no others is usable where it is well formed itself. -/
theorem usable_iff_wellFormed {c : Criterion σ} (halone : ∀ d : Criterion σ, d.PartOf c → d = c) :
    c.Usable ↔ c.WellFormed :=
  ⟨fun h => h c (.self c), fun h d hd => halone d hd ▸ h⟩

mutual

/-- The check of a criterion finds a fault wherever there is one. -/
theorem check_eq_ok_iff : ∀ c : Criterion σ, c.check = .ok () ↔ c.Usable
  | .all members => by
      have hmembers := checkEach_eq_ok_iff members
      rw [check, usable_all_iff, ← hmembers]
      cases members <;> simp
  | .any members => by
      have hmembers := checkEach_eq_ok_iff members
      rw [check, usable_any_iff, ← hmembers]
      cases members <;> simp
  | .not c => by rw [check, usable_not_iff, check_eq_ok_iff c]
  | .count target least most => by
      rw [check, usable_iff_wellFormed (fun d hd => by cases hd; rfl), WellFormed]
      by_cases hle : least ≤ most <;> simp [hle]
  | .custom c => by rw [check, usable_iff_wellFormed (fun d hd => by cases hd; rfl), WellFormed]
  | .always | .request .. | .value .. | .scope .. | .entity .. =>
      ⟨fun _ => (usable_iff_wellFormed fun d hd => by cases hd; rfl).mpr trivial, fun _ => rfl⟩

theorem checkEach_eq_ok_iff : ∀ members : List (Criterion σ),
    checkEach members = .ok () ↔ ∀ c ∈ members, c.Usable
  | [] => by simp [checkEach]
  | c :: rest => by
      rw [List.forall_mem_cons, ← check_eq_ok_iff c, ← checkEach_eq_ok_iff rest, checkEach]
      cases hcheck : c.check <;> simp

end

theorem checkAs_eq_ok_iff {c : Option (Criterion σ)} {wrap : CriterionError → PolicyError} :
    checkAs c wrap = .ok () ↔ ∀ d ∈ c, d.Usable := by
  cases c with
  | none => simp [checkAs]
  | some d => simp [checkAs, mapError_eq_ok_iff, check_eq_ok_iff]

end Criterion

/-! ## Policies -/

/-- A rule that names its attribute, and whose criteria can be used. -/
structure AttributeRule.Usable (r : AttributeRule σ) : Prop where
  target : r.target ≠ ""
  permit : ∀ c ∈ r.permit, c.Usable
  deny : ∀ c ∈ r.deny, c.Usable

theorem AttributeRule.check_eq_ok_iff {policy : String} {r : AttributeRule σ} :
    r.check policy = .ok () ↔ r.Usable := by
  rw [check]
  split
  · next hnone => exact ⟨nofun, fun h => absurd hnone h.target⟩
  · next hname =>
      rw [andThen_eq_ok_iff, Criterion.checkAs_eq_ok_iff, Criterion.checkAs_eq_ok_iff]
      exact ⟨fun ⟨hpermit, hdeny⟩ => ⟨hname, hpermit, hdeny⟩, fun h => ⟨h.permit, h.deny⟩⟩

namespace Policy

/-- A policy with an id, whose requirement and rules can be used. -/
structure Usable (p : Policy σ) : Prop where
  id : p.id ≠ ""
  requirement : p.requirement.Usable
  rules : ∀ r ∈ p.rules, r.Usable

/-- Policies that can be used together. -/
structure AllUsable (policies : List (Policy σ)) : Prop where
  usable : ∀ p ∈ policies, p.Usable
  distinct : (policies.map (·.id)).Nodup

theorem check_eq_ok_iff {p : Policy σ} : p.check = .ok () ↔ p.Usable := by
  rw [check]
  split
  · next hnone => exact ⟨nofun, fun h => absurd hnone h.id⟩
  · next hid =>
      rw [andThen_eq_ok_iff, mapError_eq_ok_iff, Criterion.check_eq_ok_iff, forM_eq_ok_iff]
      simp only [AttributeRule.check_eq_ok_iff]
      exact ⟨fun ⟨hrequirement, hrules⟩ => ⟨hid, hrequirement, hrules⟩,
        fun h => ⟨h.requirement, h.rules⟩⟩

/-- A check that goes on from some ids succeeds where none of these comes again. -/
theorem checkFrom_eq_ok_iff {seen : List String} {policies : List (Policy σ)} :
    checkFrom seen policies = .ok () ↔
      AllUsable policies ∧ ∀ p ∈ policies, p.id ∉ seen := by
  induction policies generalizing seen with
  | nil =>
      have hnone : AllUsable ([] : List (Policy σ)) := ⟨nofun, List.nodup_nil⟩
      exact ⟨fun _ => ⟨hnone, nofun⟩, fun _ => rfl⟩
  | cons p rest ih =>
      rw [checkFrom]
      split
      · next hseen =>
          have hmem : p.id ∈ seen := List.contains_iff_mem.mp hseen
          exact ⟨nofun, fun h => absurd hmem (h.2 p List.mem_cons_self)⟩
      · next hseen =>
          have hnew : p.id ∉ seen := fun hmem => hseen (List.contains_iff_mem.mpr hmem)
          rw [andThen_eq_ok_iff, check_eq_ok_iff, ih]
          constructor
          · rintro ⟨hp, hrest, hunseen⟩
            refine ⟨⟨List.forall_mem_cons.mpr ⟨hp, hrest.usable⟩, ?_⟩,
              List.forall_mem_cons.mpr ⟨hnew, fun q hq => ?_⟩⟩
            · rw [List.map_cons, List.nodup_cons]
              refine ⟨fun hmem => ?_, hrest.distinct⟩
              obtain ⟨q, hq, hid⟩ := List.mem_map.mp hmem
              exact hunseen q hq (hid ▸ List.mem_cons_self)
            · exact fun hmem => hunseen q hq (List.mem_cons_of_mem p.id hmem)
          · rintro ⟨hall, hunseen⟩
            obtain ⟨hp, hrest⟩ := List.forall_mem_cons.mp hall.usable
            have hdistinct := hall.distinct
            rw [List.map_cons, List.nodup_cons] at hdistinct
            refine ⟨hp, ⟨hrest, hdistinct.2⟩, fun q hq hmem => ?_⟩
            rcases List.mem_cons.mp hmem with hid | hold
            · exact hdistinct.1 (hid ▸ List.mem_map_of_mem hq)
            · exact hunseen q (List.mem_cons_of_mem p hq) hold

theorem checkAll_eq_ok_iff {policies : List (Policy σ)} :
    checkAll policies = .ok () ↔ AllUsable policies := by
  rw [checkAll, checkFrom_eq_ok_iff]
  exact and_iff_left fun p _ => List.not_mem_nil

end Policy

/-! ## Engines -/

namespace ReleaseEngine

theorem reload_of_usable (e : ReleaseEngine σ) {policies : List (Policy σ)}
    (h : Policy.AllUsable policies) : e.reload policies = .ok { e with policies } := by
  rw [reload, Policy.checkAll_eq_ok_iff.mpr h]

theorem reload_of_not_usable (e : ReleaseEngine σ) {policies : List (Policy σ)}
    (h : ¬ Policy.AllUsable policies) : ∃ cause, e.reload policies = .error ⟨e.id, cause⟩ := by
  rw [reload]
  cases hcheck : Policy.checkAll policies with
  | error cause => exact ⟨cause, rfl⟩
  | ok _ => exact absurd (Policy.checkAll_eq_ok_iff.mp hcheck) h

/-- What an engine can be asked for. -/
inductive Call (σ : Type)
  /-- To use other policies. -/
  | reload (policies : List (Policy σ))
  /-- To release attributes that were resolved for a request. -/
  | filter (attributes : AttributeMap) (request : Request)

/-- What comes of a call. -/
inductive Reply
  | reloaded (result : Except (Refused PolicyError) Unit)
  | filtered (result : Except CriterionError AttributeMap)

/-- Answers a call.  An engine that refuses policies stays as it is. -/
def answer (e : ReleaseEngine σ) : Call σ → σ → Reply × ReleaseEngine σ × σ
  | .reload policies, s =>
    match e.reload policies with
    | .error refusal => (.reloaded (.error refusal), e, s)
    | .ok e' => (.reloaded (.ok ()), e', s)
  | .filter attributes request, s =>
    match e.filter attributes request s with
    | (result, s) => (.filtered result, e, s)

/-- Answers calls one after the other. -/
def answerAll (e : ReleaseEngine σ) : List (Call σ) → σ → List Reply × ReleaseEngine σ × σ
  | [], s => ([], e, s)
  | call :: rest, s =>
    match e.answer call s with
    | (reply, e, s) =>
      match e.answerAll rest s with
      | (replies, e, s) => (reply :: replies, e, s)

/-- None of the policies that calls offer can be used. -/
def NoneUsable (calls : List (Call σ)) : Prop :=
  ∀ policies, .reload policies ∈ calls → ¬ Policy.AllUsable policies

/-- The policies that calls lead to: the last ones that can be used, or those from before where none
can be used. -/
def InForce (before : List (Policy σ)) (calls : List (Call σ)) (policies : List (Policy σ)) :
    Prop :=
  (NoneUsable calls ∧ policies = before) ∨
    ∃ earlier later, calls = earlier ++ .reload policies :: later ∧
      Policy.AllUsable policies ∧ NoneUsable later

theorem answerAll_cons (e : ReleaseEngine σ) (call : Call σ) (rest : List (Call σ)) (s : σ) :
    e.answerAll (call :: rest) s =
      ((e.answer call s).1 :: ((e.answer call s).2.1.answerAll rest (e.answer call s).2.2).1,
        ((e.answer call s).2.1.answerAll rest (e.answer call s).2.2).2) := rfl

theorem answerAll_append (e : ReleaseEngine σ) (first second : List (Call σ)) (s : σ) :
    e.answerAll (first ++ second) s =
      ((e.answerAll first s).1 ++
          ((e.answerAll first s).2.1.answerAll second (e.answerAll first s).2.2).1,
        ((e.answerAll first s).2.1.answerAll second (e.answerAll first s).2.2).2) := by
  induction first generalizing e s with
  | nil => rfl
  | cons call rest ih => rw [List.cons_append, answerAll_cons, answerAll_cons, ih]; rfl

theorem length_answerAll (e : ReleaseEngine σ) (calls : List (Call σ)) (s : σ) :
    (e.answerAll calls s).1.length = calls.length := by
  induction calls generalizing e s with
  | nil => rfl
  | cons call rest ih => rw [answerAll_cons, List.length_cons, List.length_cons, ih]

/-- Each call is answered by the engine that the calls before it lead to. -/
theorem getElem?_answerAll (e : ReleaseEngine σ) (before rest : List (Call σ)) (call : Call σ)
    (s : σ) :
    (e.answerAll (before ++ call :: rest) s).1[before.length]? =
      some ((e.answerAll before s).2.1.answer call (e.answerAll before s).2.2).1 := by
  have hlength := length_answerAll e before s
  rw [answerAll_append, answerAll_cons]
  dsimp only
  rw [← hlength, List.getElem?_append_right (Nat.le_refl _), Nat.sub_self, List.getElem?_cons_zero]

/-- A call changes an engine only where it offers policies that can be used. -/
theorem answer_eq_self (e : ReleaseEngine σ) {call : Call σ} (h : NoneUsable [call]) (s : σ) :
    (e.answer call s).2.1 = e := by
  cases call with
  | filter attributes request => rfl
  | reload policies =>
      obtain ⟨cause, hrefused⟩ := e.reload_of_not_usable (h policies List.mem_cons_self)
      rw [answer, hrefused]

theorem answerAll_eq_self (e : ReleaseEngine σ) {calls : List (Call σ)} (h : NoneUsable calls)
    (s : σ) : (e.answerAll calls s).2.1 = e := by
  induction calls generalizing s with
  | nil => rfl
  | cons call rest ih =>
      have hfirst : NoneUsable [call] := fun policies hmem =>
        h policies (List.mem_cons.mpr (.inl (List.mem_singleton.mp hmem)))
      have hrest : NoneUsable rest := fun policies hmem =>
        h policies (List.mem_cons_of_mem call hmem)
      rw [answerAll_cons]
      dsimp only
      rw [answer_eq_self e hfirst s, ih hrest]

theorem id_answerAll (e : ReleaseEngine σ) (calls : List (Call σ)) (s : σ) :
    (e.answerAll calls s).2.1.id = e.id := by
  induction calls generalizing e s with
  | nil => rfl
  | cons call rest ih =>
      rw [answerAll_cons]
      refine (ih _ _).trans ?_
      cases call with
      | filter attributes request => rfl
      | reload policies =>
          rw [answer, reload]
          cases Policy.checkAll policies <;> rfl

/-- An engine has the policies that its calls lead to. -/
theorem answerAll_of_inForce (e : ReleaseEngine σ) {calls : List (Call σ)}
    {policies : List (Policy σ)} (h : InForce e.policies calls policies) (s : σ) :
    (e.answerAll calls s).2.1 = { e with policies } := by
  rcases h with ⟨hnone, rfl⟩ | ⟨earlier, later, rfl, husable, hnone⟩
  · exact answerAll_eq_self e hnone s
  · have hid := id_answerAll e earlier s
    rw [answerAll_append, answerAll_cons]
    dsimp only
    rw [answerAll_eq_self _ hnone, answer, reload_of_usable _ husable, hid]

theorem exists_inForce (before : List (Policy σ)) (calls : List (Call σ)) :
    ∃ policies, InForce before calls policies := by
  induction calls using List.reverseRecOn with
  | nil => exact ⟨before, .inl ⟨nofun, rfl⟩⟩
  | append_singleton calls call ih =>
      by_cases hcall : NoneUsable [call]
      · have happend : ∀ {earlier : List (Call σ)}, NoneUsable earlier →
            NoneUsable (earlier ++ [call]) := fun hearlier policies hmem =>
          (List.mem_append.mp hmem).elim (hearlier policies) (hcall policies)
        obtain ⟨policies, ⟨hnone, rfl⟩ | ⟨earlier, later, rfl, husable, hnone⟩⟩ := ih
        · exact ⟨policies, .inl ⟨happend hnone, rfl⟩⟩
        · refine ⟨policies, .inr ⟨earlier, later ++ [call], ?_, husable, happend hnone⟩⟩
          rw [List.append_assoc, List.cons_append]
      · rw [NoneUsable] at hcall
        push Not at hcall
        obtain ⟨policies, hmem, husable⟩ := hcall
        exact ⟨policies, .inr ⟨calls, [], by rw [List.mem_singleton.mp hmem], husable, nofun⟩⟩

/-- An engine accepts the policies that can be used, and no others.  Whatever it is asked for, one
call after the other, it releases by the policies that it accepted last.  One that has accepted none
yet releases nothing. -/
theorem last_accepted_in_force (e : ReleaseEngine σ) (id : String) :
    (∀ policies : List (Policy σ),
      (Policy.AllUsable policies →
        e.reload policies = .ok { e with policies } ∧
          validated id policies = .ok ⟨id, policies⟩) ∧
      (¬ Policy.AllUsable policies →
        ∃ cause, e.reload policies = .error ⟨e.id, cause⟩ ∧
          validated id policies = .error ⟨id, cause⟩)) ∧
    (∀ calls, ∃ policies, InForce e.policies calls policies) ∧
    (∀ before policies s, InForce e.policies before policies →
      (∀ others, ¬ Policy.AllUsable others →
        (e.answerAll (before ++ [.reload others]) s).2 =
          ({ e with policies }, (e.answerAll before s).2.2)) ∧
      ∀ attributes request rest,
        (e.answerAll (before ++ .filter attributes request :: rest) s).1[before.length]? =
          some (.filtered
            (filter { e with policies } attributes request (e.answerAll before s).2.2).1)) ∧
    ∀ (before rest : List (Call σ)) attributes request s, NoneUsable before →
      ((empty id).answerAll (before ++ .filter attributes request :: rest) s).1[before.length]? =
        some (.filtered (.ok [])) := by
  refine ⟨fun policies => ⟨fun husable => ?_, fun hnot => ?_⟩, exists_inForce e.policies, ?_, ?_⟩
  · exact ⟨e.reload_of_usable husable, reload_of_usable (empty id) husable⟩
  · rw [validated, reload, reload]
    cases hcheck : Policy.checkAll policies with
    | error cause => exact ⟨cause, rfl, rfl⟩
    | ok _ => exact absurd (Policy.checkAll_eq_ok_iff.mp hcheck) hnot
  · intro before policies s hinForce
    have hengine := answerAll_of_inForce e hinForce s
    refine ⟨fun others hnot => ?_, fun attributes request rest => ?_⟩
    · obtain ⟨cause, hrefused⟩ := reload_of_not_usable { e with policies } hnot
      rw [answerAll_append, hengine, answerAll_cons, answer, hrefused]
      rfl
    · rw [getElem?_answerAll, hengine]
      rfl
  · intro before rest attributes request s hnone
    rw [getElem?_answerAll, answerAll_eq_self _ hnone]
    rfl

/-! ## A refused replacement -/

/-- Everybody gets the roles, except those that a criterion withholds. -/
def withholding (deny : Criterion Unit) : List (Policy Unit) :=
  [{ id := "everybody", requirement := .always,
     rules := [{ target := "role", permit := some .always, deny := some deny }] }]

/-- One role is withheld. -/
def guestsWithheld : List (Policy Unit) := withholding (.value none (.exact "guest" true))

/-- The criterion has a part without members. -/
def hollow : List (Policy Unit) := withholding (.not (.all [.always, .any []]))

def twoRoles : AttributeMap :=
  [("role", { id := "role", values := [.string "guest", .string "staff"] })]

theorem guestsWithheld_usable : Policy.AllUsable guestsWithheld :=
  Policy.checkAll_eq_ok_iff.mp rfl

theorem hollow_not_usable : ¬ Policy.AllUsable hollow :=
  fun h => nomatch Policy.checkAll_eq_ok_iff.mpr h

/-- What is released after the hollow policies were refused. -/
theorem last_accepted_in_force_guests :
    Policy.AllUsable guestsWithheld ∧ ¬ Policy.AllUsable hollow ∧
    InForce [] [.reload guestsWithheld, .reload hollow] guestsWithheld ∧
    ((empty "release").answerAll
        [.reload guestsWithheld, .reload hollow, .filter twoRoles .empty] ()).1[2]? =
      some (.filtered (.ok [("role", { id := "role", values := [.string "staff"] })])) := by
  have hlater : NoneUsable [Call.reload hollow] := by
    intro policies hmem
    cases List.mem_singleton.mp hmem
    exact hollow_not_usable
  have hinForce : InForce [] [.reload guestsWithheld, .reload hollow] guestsWithheld :=
    .inr ⟨[], [.reload hollow], rfl, guestsWithheld_usable, hlater⟩
  obtain ⟨-, -, hserves, -⟩ := last_accepted_in_force (empty "release" : ReleaseEngine Unit) ""
  obtain ⟨-, hfilter⟩ := hserves [.reload guestsWithheld, .reload hollow] _ () hinForce
  exact ⟨guestsWithheld_usable, hollow_not_usable, hinForce, hfilter twoRoles .empty []⟩

end ReleaseEngine

end AttributeRelease
