import AttributeRelease.Mapping.Basic
import AttributeRelease.Proofs.Pattern.Enclosed
import AttributeRelease.Proofs.Pattern.Spans
import AttributeRelease.Release.Matcher

/-!
# Patterns that match from end to end

A pattern is made to match from end to end by what is written around its text.  What comes of it
accepts the texts that the pattern matches as a whole, as long as the pattern closes no group that
it did not open: then it would close the one around it, and go on outside of it.
-/

namespace AttributeRelease

namespace Pattern

/-- By what a library reckons, an expression takes no more room alone than between the ends of the
text. -/
def Library.Roomy (l : Library) : Prop :=
  ∀ e, l.cost e ≤ l.cost (.sequence [.place .textStart, e, .place .textEnd])

theorem Library.roomy_standard : Library.standard.Roomy := by
  intro e
  have hcost : Expr.cost (.sequence [.place .textStart, e, .place .textEnd]) =
      32 + (e.cost + 32) := rfl
  change e.cost ≤ Expr.cost _
  rw [hcost]
  omega

/-- The group around a pattern that has to match from end to end. -/
def wrapper (flags : Flags) : Frame := ⟨none, flags, [], [some ⟨.place .textStart, 0⟩]⟩

/-- What stands before a pattern opens its group. -/
theorem run_opening {flags : Flags} (hline : flags.multiLine = false)
    (hverbose : flags.verbose = false) (cs : List Char) (room : Nat) :
    Reading.run (room + 2) (.start flags ('^' :: '(' :: '?' :: ':' :: (cs ++ closing))) =
      Reading.run room ((Reading.start flags cs).inside (wrapper flags)) := by
  obtain ⟨_, multiLine, _, _, _, _, verbose, _⟩ := flags
  cases hline
  cases hverbose
  rfl

/-- The body of a pattern in its group, between the ends of the text. -/
theorem body_ended {flags : Flags} (hline : flags.multiLine = false) (final : Reading) :
    ((final.closed (wrapper flags)).ended).body =
      ⟨.sequence [.place .textStart, final.body.value, .place .textEnd],
        final.body.depth + 2⟩ := by
  simp [Reading.body, Reading.branch, Reading.ended, Reading.closed, Reading.pushPlain,
    Reading.push, wrapper, Expr.choice, hline, Reading.depthOver, Layer.add, Layer.depth]

/-- What is read around a pattern that has to match from end to end. -/
theorem read_anchored {flags : Flags} (hline : flags.multiLine = false)
    (hverbose : flags.verbose = false) {cs : List Char} {body : Expr} {names : List (String × Nat)}
    (h : read flags ('^' :: '(' :: '?' :: ':' :: (cs ++ closing)) = .ok (body, names)) :
    read flags cs = .error .groupUnopened ∨
      ∃ inner, read flags cs = .ok (inner, names) ∧
        body = .sequence [.place .textStart, inner, .place .textEnd] := by
  rw [read] at h
  have hroom : ('^' :: '(' :: '?' :: ':' :: (cs ++ closing)).length + 1 = (cs.length + 5) + 2 := by
    simp [closing]
  rw [hroom, run_opening hline hverbose] at h
  cases hrun : Reading.run (cs.length + 5) ((Reading.start flags cs).inside (wrapper flags)) with
  | error fault =>
      rw [hrun] at h
      cases h
  | ok final' =>
      rw [hrun] at h
      have hfinish : final'.finish flags.library.nestLimit = .ok (body, names) := h
      rw [Reading.finish] at hfinish
      split at hfinish
      next hclosed =>
        split at hfinish
        next hdepth =>
          cases hfinish
          have hstart : (Reading.start flags cs).rest.length = cs.length := rfl
          rcases Reading.run_inside (Nat.lt_succ_self cs.length) (by omega) hrun
            (List.isEmpty_iff.mp hclosed) with hunopened | ⟨final, halone, hframes, rfl⟩
          · exact .inl (by rw [read, hunopened]; rfl)
          · rw [body_ended hline] at hdepth
            have hshallow : final.body.depth ≤ flags.library.nestLimit :=
              Nat.le_trans (Nat.le_add_right _ 2) hdepth
            refine .inr ⟨final.body.value, ?_, congrArg Nested.value (body_ended hline final)⟩
            have hnames : ((final.closed (wrapper flags)).ended).names = final.names := rfl
            rw [read, halone, hnames]
            simp only [bind, Except.bind, Reading.finish, hframes, List.isEmpty_nil, if_true,
              if_pos hshallow]
        next => cases hfinish
      next => cases hfinish

theorem toList_anchored (source : String) :
    (anchored source).toList = '^' :: '(' :: '?' :: ':' :: (source.toList ++ closing) := by
  simp [anchored, closing]

/-- What is read and takes no more room than there is. -/
theorem ofText_eq_ok_iff {flags : Flags} {source : String} {p : Pattern} :
    ofText flags source = .ok p ↔
      parse flags source = .ok p ∧ flags.library.cost p.body ≤ flags.library.costLimit := by
  rw [ofText]
  cases parse flags source with
  | error e => simp [bind, Except.bind]
  | ok q =>
      simp only [bind, Except.bind]
      split <;> grind

theorem parse_eq_ok_iff {flags : Flags} {source : String} {p : Pattern} :
    parse flags source = .ok p ↔
      p.source = source ∧ read flags source.toList = .ok (p.body, p.names) := by
  rw [parse]
  obtain ⟨_, body, names⟩ := p
  cases read flags source.toList with
  | error fault => simp
  | ok found =>
      obtain ⟨body', names'⟩ := found
      simp [eq_comm]

/-- The pattern that is compiled occurs in a text where the pattern alone matches all of it. -/
theorem ofText_anchored {flags : Flags} (hline : flags.multiLine = false)
    (hverbose : flags.verbose = false) {source : String} {q : Pattern}
    (h : ofText flags (anchored source) = .ok q) :
    ofText flags source = .error (.malformed source .groupUnopened) ∨
      ∃ p, parse flags source = .ok p ∧ (∀ text, q.occursIn text ↔ p.SpansAll text) ∧
        (flags.library.Roomy → ofText flags source = .ok p) := by
  obtain ⟨hparse, hcost⟩ := ofText_eq_ok_iff.mp h
  obtain ⟨-, hread⟩ := parse_eq_ok_iff.mp hparse
  rw [toList_anchored] at hread
  rcases read_anchored hline hverbose hread with hunopened | ⟨inner, halone, hbody⟩
  · exact .inl (by rw [ofText, parse, hunopened]; rfl)
  · have hinner : parse flags source = .ok ⟨source, inner, q.names⟩ :=
      parse_eq_ok_iff.mpr ⟨rfl, halone⟩
    refine .inr ⟨_, hinner, fun text => occursIn_between_ends text hbody, fun hroomy => ?_⟩
    rw [hbody] at hcost
    exact ofText_eq_ok_iff.mpr ⟨hinner, Nat.le_trans (hroomy inner) hcost⟩

/-- A pattern with something around it that makes it match from end to end accepts what the pattern
itself matches as a whole, unless the pattern closes a group that it did not open.  This holds of
matchers, and of the rules of mappings that select whole values, whatever properties a library knows
and wherever its limits lie. -/
theorem spansAll_of_anchored (l : Library) (source : String) :
    (∀ m, Matcher.ofPattern source l = .ok m →
      ofText { library := l } source = .error (.malformed source .groupUnopened) ∨
        ∃ p, parse { library := l } source = .ok p ∧ (∀ text, m.accepts text ↔ p.SpansAll text) ∧
          (l.Roomy → ofText { library := l } source = .ok p)) ∧
    ∀ r : SourceRule, r.pattern = source → r.partly = false → ∀ q, r.compile l = .ok q →
      { r with partly := true }.compile l = .error (.malformed source .groupUnopened) ∨
        ∃ p, parse (r.flags l) source = .ok p ∧ (∀ text, q.occursIn text ↔ p.SpansAll text) ∧
          (l.Roomy → { r with partly := true }.compile l = .ok p) := by
  constructor
  · intro m hm
    rw [Matcher.ofPattern] at hm
    cases hq : ofText { library := l } (anchored source) with
    | error e => simp [hq] at hm
    | ok q =>
        simp only [hq, Except.ok.injEq] at hm
        subst hm
        exact ofText_anchored rfl rfl hq
  · rintro r rfl hpartly q hq
    rw [SourceRule.compile, hpartly] at hq
    exact ofText_anchored rfl rfl hq

theorem spansAll_of_anchored_staff :
    (∃ p, ofText {} "staff|admin" = .ok p ∧ p.SpansAll "admin" ∧ ¬ p.SpansAll "admins") ∧
    ∃ p, SourceRule.compile { pattern := "(a|b)+c?", partly := true } = .ok p ∧
      p.SpansAll "abac" ∧ ¬ p.SpansAll "acb" := by
  constructor
  · rcases (spansAll_of_anchored .standard "staff|admin").1 _ rfl with
      hunopened | ⟨p, -, hspans, hp⟩
    · cases hunopened
    · refine ⟨p, hp Library.roomy_standard, (hspans "admin").mp rfl, fun h => ?_⟩
      have hrejected : false = true := (hspans "admins").mpr h
      cases hrejected
  · rcases (spansAll_of_anchored .standard "(a|b)+c?").2 { pattern := "(a|b)+c?" } rfl rfl _ rfl
      with hunopened | ⟨p, -, hspans, hp⟩
    · cases hunopened
    · refine ⟨p, hp Library.roomy_standard, (hspans "abac").mp rfl, fun h => ?_⟩
      have hrejected : false = true := (hspans "acb").mpr h
      cases hrejected

/-- A pattern that closes the group around it is none, and yet a matcher is made of it: what is left
of it stands outside of the group, and texts are accepted of which it matches the beginning only. -/
theorem ofPattern_closes_group :
    ¬ ((∀ source m, Matcher.ofPattern source = .ok m →
        ∃ p, ofText {} source = .ok p ∧ ∀ text, m.accepts text ↔ p.SpansAll text) ∧
      ∀ (r : SourceRule) q, r.partly = false → r.compile = .ok q →
        ∃ p, { r with partly := true }.compile = .ok p ∧
          ∀ text, q.occursIn text ↔ p.SpansAll text) ∧
    ofText {} "staff)|(?:member" = .error (.malformed "staff)|(?:member" .groupUnopened) ∧
    ∃ m, Matcher.ofPattern "staff)|(?:member" = .ok m ∧ m.accepts "staffing" = true := by
  have hrefused : ofText {} "staff)|(?:member" =
      .error (.malformed "staff)|(?:member" .groupUnopened) := rfl
  refine ⟨?_, hrefused, _, rfl, rfl⟩
  rintro ⟨hclaim, -⟩
  obtain ⟨p, hp, -⟩ := hclaim "staff)|(?:member" _ rfl
  rw [hrefused] at hp
  cases hp

end Pattern

end AttributeRelease
