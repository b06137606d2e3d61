import AttributeRelease.Pattern.Parser
import AttributeRelease.Proofs.Pattern.Brackets

/-!
# Reading a pattern in a group

A pattern in a group is read step by step like the pattern alone, with one group more around it.
The group is closed behind the pattern unless the pattern closes it itself, which the pattern alone
cannot do, or takes what would close it, and then it is never closed.
-/

namespace AttributeRelease.Pattern

open Text

namespace Reading

/-- A reading with one more group around it, and what closes that group behind it. -/
def inside (outer : Frame) (r : Reading) : Reading :=
  { r with rest := r.rest ++ closing, frames := r.frames ++ [outer] }

section Fields

variable (outer : Frame) (r : Reading)

@[simp] theorem inside_flags : (r.inside outer).flags = r.flags := rfl

@[simp] theorem inside_names : (r.inside outer).names = r.names := rfl

@[simp] theorem inside_items : (r.inside outer).items = r.items := rfl

theorem inside_frames_ne_nil : (r.inside outer).frames ≠ [] := by
  simp [inside]

end Fields

/-- However long a reading goes on, a group stays open. -/
def Doomed (r : Reading) : Prop := ∀ room final, run room r = .ok final → final.frames ≠ []

theorem run_succ (room : Nat) (r : Reading) :
    run (room + 1) r =
      if (r.flags.skip r.rest).isEmpty then .ok { r with rest := r.flags.skip r.rest }
      else step { r with rest := r.flags.skip r.rest } >>= run room := rfl

/-- Without room a reading stays where it is, so only its next step counts. -/
theorem doomed_of_run {r : Reading} (h : r.frames ≠ [])
    (hrun : ∀ room final, run (room + 1) r = .ok final → final.frames ≠ []) : r.Doomed := by
  intro room final heq
  cases room with
  | zero =>
      cases heq
      exact h
  | succ room => exact hrun room final heq

theorem doomed_of_end {r : Reading} (h : r.frames ≠ []) (hrest : r.rest = []) : r.Doomed := by
  apply doomed_of_run h
  intro room final hrun
  rw [run_succ, hrest, r.flags.skip_nil] at hrun
  cases hrun
  exact h

theorem doomed_of_beyond {r : Reading} (h : r.frames ≠ []) (hrest : Beyond r.rest) : r.Doomed := by
  rcases hrest with hnil | hend
  · exact doomed_of_end h hnil
  · apply doomed_of_run h
    intro room final hrun
    rw [run_succ, hend, r.flags.skip_beyond (.inr rfl)] at hrun
    refine doomed_of_end ?_ ?_ room final hrun
    · exact h
    · rfl

/-- A brace with nothing in its pattern behind it begins no repetition. -/
theorem readCounted_stuck {r : Reading} {cs : List Char} (h : r.flags.skip cs = closing) :
    ∃ e, r.readCounted cs = .error e := by
  have hbounds : readBounds r.flags cs = .error .repetitionInvalid := by
    rw [readBounds, h]
    rfl
  unfold readCounted
  split
  · rw [hbounds]
    exact ⟨_, rfl⟩
  · exact ⟨_, rfl⟩

theorem doomed_of_stuck {r : Reading} (h : r.frames ≠ []) (hrest : Stuck r.flags r.rest) :
    r.Doomed := by
  obtain ⟨after, hbrace, hafter⟩ := hrest
  apply doomed_of_run h
  intro room final hrun
  have hskip : r.flags.skip ('\x7b' :: after) = '\x7b' :: after := by
    unfold Flags.skip
    split <;> rfl
  obtain ⟨e, he⟩ := readCounted_stuck (r := { r with rest := '\x7b' :: after }) hafter
  have hstep : step { r with rest := '\x7b' :: after } = .error e := he
  rw [run_succ, hbrace, hskip, if_neg (by simp), hstep] at hrun
  cases hrun

/-! ## Readings that mirror each other -/

section Mirrors

variable {α : Type} {m n : Nat} {outer : Frame} {alone behind : Except Fault Reading}

/-- All that is read ends in readings that are doomed. -/
def Dooms (behind : Except Fault Reading) : Prop := ∀ r, behind = .ok r → r.Doomed

/-- A step in a group is the step of the pattern alone, unless it is doomed or the pattern closes
the group; then no more than a number of characters are left. -/
def Mirrors (outer : Frame) (n : Nat) (alone behind : Except Fault Reading) : Prop :=
  ∀ r', behind = .ok r' → r'.Doomed ∨ alone = .error .groupUnopened ∨
    ∃ r, r' = r.inside outer ∧ r.rest.length ≤ n ∧ alone = .ok r

theorem Dooms.error (e : Fault) : Dooms (.error e) := nofun

theorem Dooms.ok {r : Reading} (h : r.Doomed) : Dooms (.ok r) := by
  rintro _ ⟨⟩
  exact h

theorem Dooms.bind {x : Except Fault α} {k : α → Except Fault Reading} (h : ∀ a, Dooms (k a)) :
    Dooms (x >>= k) := by
  cases x with
  | error e => exact .error e
  | ok a => exact h a

namespace Mirrors

theorem error (e : Fault) : Mirrors outer n alone (.error e) := nofun

theorem ok {r : Reading} (h : r.rest.length ≤ n) :
    Mirrors outer n (.ok r) (.ok (r.inside outer)) := by
  rintro _ ⟨⟩
  exact .inr (.inr ⟨r, rfl, h, rfl⟩)

theorem of_dooms (h : Dooms behind) (n : Nat) (alone : Except Fault Reading) :
    Mirrors outer n alone behind :=
  fun r' hr' => .inl (h r' hr')

theorem mono (h : Mirrors outer m alone behind) (hmn : m ≤ n) : Mirrors outer n alone behind :=
  fun r' hr' => (h r' hr').imp_right (Or.imp_right fun ⟨r, heq, hle, halone⟩ =>
    ⟨r, heq, Nat.le_trans hle hmn, halone⟩)

theorem check {x : Except Fault α} {k k' : α → Except Fault Reading}
    (h : ∀ a, Mirrors outer n (k a) (k' a)) : Mirrors outer n (x >>= k) (x >>= k') := by
  cases x with
  | error e => exact .error e
  | ok a => exact h a

/-- What is done with what a reader read. -/
theorem bind {lost : α → List Char → Prop} {x y : Except Fault (α × List Char)}
    {k k' : α × List Char → Except Fault Reading} (h : Agrees lost m x y)
    (hnext : ∀ a rest, rest.length ≤ m →
      Mirrors outer n (k (a, rest)) (k' (a, rest ++ closing)))
    (hlost : ∀ a rest', lost a rest' → Dooms (k' (a, rest'))) :
    Mirrors outer n (x >>= k) (y >>= k') := by
  cases y with
  | error e => exact .error e
  | ok result =>
      obtain ⟨a, rest'⟩ := result
      rcases h a rest' rfl with hend | ⟨rest, rfl, hle, rfl⟩
      · exact of_dooms (hlost a rest' hend) n _
      · exact hnext a rest hle

end Mirrors

end Mirrors

/-! ## Groups -/

variable {outer : Frame}

theorem closeGroup_mirrors (r : Reading) (cs : List Char) :
    Mirrors outer cs.length (r.closeGroup cs) ((r.inside outer).closeGroup (cs ++ closing)) := by
  obtain ⟨rest, flags, frames, branches, items, groups, names⟩ := r
  cases frames with
  | nil => exact fun r' _ => .inr (.inl rfl)
  | cons f frames => exact .ok (Nat.le_refl _)

theorem prefix_of_prefix_append {mark cs : List Char} (hmark : ')' ∉ mark)
    (h : mark <+: cs ++ closing) : mark <+: cs := by
  rcases List.prefix_or_prefix_of_prefix h (List.prefix_append cs closing) with hmark' | ⟨more, rfl⟩
  · exact hmark'
  · have hmore : more <+: closing := (List.prefix_append_right_inj cs).mp h
    cases more with
    | nil => exact (List.append_nil cs).symm ▸ List.prefix_rfl
    | cons c more =>
        obtain ⟨rfl, -⟩ := List.cons_prefix_cons.mp hmore
        simp at hmark

theorem isLookAround_iff {cs : List Char} :
    isLookAround cs ↔
      ∃ mark ∈ [['?', '='], ['?', '!'], ['?', '<', '='], ['?', '<', '!']], mark <+: cs := by
  unfold isLookAround
  split
  case h_5 hahead hnot hbehind hnotBehind =>
    refine iff_of_false Bool.false_ne_true ?_
    rintro ⟨mark, hmem, rest, rfl⟩
    simp only [List.mem_cons, List.not_mem_nil, or_false] at hmem
    rcases hmem with rfl | rfl | rfl | rfl
    · exact hahead rest rfl
    · exact hnot rest rfl
    · exact hbehind rest rfl
    · exact hnotBehind rest rfl
  all_goals simp

theorem isLookAround_append (cs : List Char) : isLookAround (cs ++ closing) = isLookAround cs := by
  rw [Bool.eq_iff_iff, isLookAround_iff, isLookAround_iff]
  constructor
  · rintro ⟨mark, hmem, hmark⟩
    have hplain : ∀ mark ∈ [['?', '='], ['?', '!'], ['?', '<', '='], ['?', '<', '!']],
        ')' ∉ mark := by decide
    exact ⟨mark, hmem, prefix_of_prefix_append (hplain mark hmem) hmark⟩
  · rintro ⟨mark, hmem, hmark⟩
    exact ⟨mark, hmem, hmark.trans (List.prefix_append _ _)⟩

/-- What is left behind the angle before the name of a group. -/
def afterAngle? : List Char → Option (List Char)
  | 'P' :: '<' :: rest => some rest
  | '<' :: rest => some rest
  | _ => none

theorem afterAngle?_append (cs : List Char) :
    afterAngle? (cs ++ closing) = (afterAngle? cs).map (· ++ closing) := by
  unfold afterAngle?
  split
  next rest heq =>
    match cs with
    | [] => cases heq
    | [_] => cases heq
    | _ :: _ :: _ =>
        cases heq
        rfl
  next rest heq =>
    match cs with
    | [] => cases heq
    | _ :: _ =>
        cases heq
        rfl
  next hnamed hangle =>
    split
    next rest => exact absurd rfl (hnamed (rest ++ closing))
    next rest => exact absurd rfl (hangle (rest ++ closing))
    next => rfl

theorem length_afterAngle?_le {cs name : List Char} (h : afterAngle? cs = some name) :
    name.length ≤ cs.length := by
  unfold afterAngle? at h
  split at h
  · cases h
    exact Nat.le_add_right _ 2
  · cases h
    exact Nat.le_add_right _ 1
  · cases h

/-- Flags behind an opening parenthesis and a question mark. -/
def setFlags (r : Reading) (cs : List Char) : Except Fault Reading := do
  let (flags, last, after) ← readFlags r.flags [] cs
  if last == ':' then return r.openGroup none flags after
  else if cs.head? == some ')' then .error .repetitionMissing
  else return { r with rest := after, flags, items := none :: r.items }

theorem readGroup_eq (r : Reading) (cs : List Char) :
    r.readGroup cs =
      if isLookAround (r.flags.skip cs) then .error .lookAround
      else
        match r.flags.skip cs with
        | '?' :: rest =>
          match afterAngle? rest with
          | some name => r.openNamed name
          | none => r.setFlags rest
        | rest => .ok (r.openNumbered rest) := by
  unfold readGroup
  dsimp only
  split
  · rfl
  · split
    next heq =>
      rw [heq]
      rfl
    next heq =>
      rw [heq]
      rfl
    next rest hnamed hangle heq =>
      have hnone : afterAngle? rest = none := by
        unfold afterAngle?
        split
        next name => exact absurd rfl (hnamed name)
        next name => exact absurd rfl (hangle name)
        next => rfl
      rw [heq]
      simp only [hnone]
      rfl
    next hflags =>
      split
      next rest heq => exact absurd heq (hflags rest)
      next => rfl

/-- Two results of a reader as one, before what is left. -/
def regroup {α β : Type} (x : Except Fault (α × β × List Char)) :
    Except Fault ((α × β) × List Char) :=
  x.map fun r => ((r.1, r.2.1), r.2.2)

theorem bind_eq_regroup {α β γ : Type} (x : Except Fault (α × β × List Char))
    (k : α × β × List Char → Except Fault γ) :
    x >>= k = regroup x >>= fun r => k (r.1.1, r.1.2, r.2) := by
  cases x <;> rfl

/-- The parenthesis behind the pattern ends flags that it leaves open. -/
theorem readFlags_agrees (flags : Flags) (seen cs : List Char) :
    Agrees Past cs.length (regroup (readFlags flags seen cs))
      (regroup (readFlags flags seen (cs ++ closing))) := by
  induction cs generalizing flags seen with
  | nil =>
      refine Loses.agrees ?_ _ _
      rw [List.nil_append, closing, readFlags, if_pos (by decide)]
      split
      · exact .error _
      · exact .ok (.inr rfl)
  | cons c cs ih =>
      rw [List.cons_append, readFlags, readFlags]
      split
      · split
        · exact .error _
        · exact .ok (Nat.le_succ _)
      · split
        · exact .error _
        · split
          · exact (ih _ _).mono (Nat.le_succ _)
          · split
            · exact (ih _ _).mono (Nat.le_succ _)
            · exact .error _

theorem setFlags_mirrors (r : Reading) (cs : List Char) :
    Mirrors outer cs.length (r.setFlags cs) ((r.inside outer).setFlags (cs ++ closing)) := by
  rw [setFlags, setFlags, bind_eq_regroup, bind_eq_regroup]
  refine .bind (readFlags_agrees r.flags [] cs) (fun read after hle => ?_)
    (fun read after hbeyond => ?_)
  · dsimp only
    split
    · exact .ok hle
    · cases cs with
      | nil => exact .error _
      | cons c cs =>
          rw [List.cons_append, List.head?_cons, List.head?_cons]
          split
          · exact .error _
          · exact .ok hle
  · dsimp only
    split
    · exact .ok (doomed_of_beyond (List.cons_ne_nil _ _) hbeyond)
    · split
      · exact .error _
      · exact .ok (doomed_of_beyond (inside_frames_ne_nil outer r) hbeyond)

theorem openNumbered_mirrors (r : Reading) {n : Nat} {cs : List Char} (h : cs.length ≤ n) :
    Mirrors outer n (.ok (r.openNumbered cs))
      (.ok ((r.inside outer).openNumbered (cs ++ closing))) :=
  .ok h

theorem openNamed_mirrors (r : Reading) (cs : List Char) :
    Mirrors outer cs.length (r.openNamed cs) ((r.inside outer).openNamed (cs ++ closing)) := by
  unfold openNamed
  rcases cut_append (c := '>') (by decide) cs with ⟨-, hnone⟩ | ⟨hsome, hafter, hname⟩
  · rw [hnone]
    refine .of_dooms ?_ _ _
    split
    case h_1 heq => cases heq
    case h_2 => exact .error _
  · have hle := (List.dropWhile_sublist (· ≠ '>') (l := cs)).length_le
    rw [hafter, hname]
    generalize cs.takeWhile (· ≠ '>') = name
    generalize cs.dropWhile (· ≠ '>') = after at hle hsome ⊢
    cases after with
    | nil => exact absurd rfl hsome
    | cons d after =>
        cases name with
        | nil => exact .error _
        | cons c name =>
            dsimp only [List.cons_append]
            rw [inside_flags, inside_names]
            split
            · split
              · exact .error _
              · exact .ok (Nat.le_of_succ_le hle)
            · exact .error _

theorem readGroup_mirrors (r : Reading) (cs : List Char) :
    Mirrors outer cs.length (r.readGroup cs) ((r.inside outer).readGroup (cs ++ closing)) := by
  rw [readGroup_eq, readGroup_eq, inside_flags]
  rcases r.flags.skip_append cs with heq | ⟨heq, -⟩
  · have hle := r.flags.length_skip_le cs
    rw [heq, isLookAround_append]
    generalize r.flags.skip cs = rest at hle ⊢
    split
    · exact .error _
    · cases rest with
      | nil => exact openNumbered_mirrors r (Nat.zero_le _)
      | cons c rest =>
          by_cases hc : c = '?'
          · subst hc
            simp only [List.cons_append, afterAngle?_append]
            cases hangle : afterAngle? rest with
            | none => exact (setFlags_mirrors r rest).mono (Nat.le_of_succ_le hle)
            | some name =>
                have hname := Nat.le_trans (length_afterAngle?_le hangle) (Nat.le_of_succ_le hle)
                exact (openNamed_mirrors r name).mono hname
          · rw [List.cons_append]
            split
            case h_1 heq => exact absurd (List.cons.inj heq).1 hc
            case h_2 =>
              split
              case h_1 heq => exact absurd (List.cons.inj heq).1 hc
              case h_2 => exact openNumbered_mirrors r hle
  · rw [heq]
    exact .of_dooms (.ok (doomed_of_end (List.cons_ne_nil _ _) rfl)) _ _

/-! ## Repetitions -/

/-- A question mark that changes the greed of a repetition. -/
def takeMark : List Char → Bool × List Char
  | '?' :: rest => (false, rest)
  | cs => (true, cs)

theorem takeMark_of_ne {c : Char} (h : c ≠ '?') (rest : List Char) :
    takeMark (c :: rest) = (true, c :: rest) := by
  unfold takeMark
  split
  case h_1 heq => exact absurd (List.cons.inj heq).1 h
  case h_2 => rfl

theorem takeMark_append (cs : List Char) :
    takeMark (cs ++ closing) = ((takeMark cs).1, (takeMark cs).2 ++ closing) := by
  cases cs with
  | nil => rfl
  | cons c cs =>
      by_cases hc : c = '?'
      · subst hc
        rfl
      · rw [List.cons_append, takeMark_of_ne hc, takeMark_of_ne hc]
        rfl

theorem length_takeMark_le (cs : List Char) : (takeMark cs).2.length ≤ cs.length := by
  unfold takeMark
  split
  · exact Nat.le_succ _
  · exact Nat.le_refl _

theorem repeatLast_eq (r : Reading) (least : Nat) (most : Option Nat) (cs : List Char) :
    r.repeatLast least most cs =
      match r.items with
      | some e :: items =>
        .ok { r with
          rest := (takeMark cs).2
          items := some ⟨e.value.repeated least most ((takeMark cs).1 != r.flags.swapGreed),
            e.depth + 1⟩ :: items }
      | _ => .error .repetitionMissing := rfl

theorem repeatLast_mirrors (r : Reading) (least : Nat) (most : Option Nat) (cs : List Char) :
    Mirrors outer cs.length (r.repeatLast least most cs)
      ((r.inside outer).repeatLast least most (cs ++ closing)) := by
  rw [repeatLast_eq, repeatLast_eq, inside_items, takeMark_append]
  split
  · exact .ok (length_takeMark_le cs)
  · exact .error _

theorem repeatLast_dooms {r : Reading} (h : r.frames ≠ []) (least : Nat) (most : Option Nat)
    {cs : List Char} (hcs : Beyond cs) : Dooms (r.repeatLast least most cs) := by
  have hmark : (takeMark cs).2 = cs := by
    rcases hcs with rfl | rfl <;> rfl
  rw [repeatLast_eq, hmark]
  split
  · exact .ok (doomed_of_beyond h hcs)
  · exact .error _

/-- The greatest number of a repetition, up to the closing brace. -/
def readMost (flags : Flags) (least : Nat) : List Char → Except Fault (Option Nat × List Char)
  | ',' :: rest =>
    match flags.skip rest with
    | '\x7d' :: rest => .ok (none, '\x7d' :: rest)
    | rest => (readDecimal flags rest).map fun (most, rest) => (some most, rest)
  | rest => .ok (some least, rest)

/-- The closing brace of a repetition. -/
def closeBounds (least : Nat) (most : Option Nat) :
    List Char → Except Fault ((Nat × Option Nat) × List Char)
  | '\x7d' :: rest =>
    if most.all (least ≤ ·) then .ok ((least, most), rest) else .error .repetitionInvalid
  | _ => .error .repetitionInvalid

section Bounds

variable {flags : Flags} {least : Nat} {cs tail : List Char}

theorem readMost_brace (h : flags.skip cs = '\x7d' :: tail) :
    readMost flags least (',' :: cs) = .ok (none, '\x7d' :: tail) := by
  simp only [readMost, h]

theorem readMost_number (h : (flags.skip cs).head? ≠ some '\x7d') :
    readMost flags least (',' :: cs) =
      (readDecimal flags (flags.skip cs)).map fun r => (some r.1, r.2) := by
  rw [readMost]
  split
  next heq => exact absurd (by rw [heq]; rfl) h
  next => rfl

theorem readMost_of_head? (h : cs.head? ≠ some ',') :
    readMost flags least cs = .ok (some least, cs) := by
  unfold readMost
  split
  next => exact absurd rfl h
  next => rfl

theorem readMost_agrees (flags : Flags) (least : Nat) (cs : List Char) :
    Agrees Past cs.length (readMost flags least cs) (readMost flags least (cs ++ closing)) := by
  by_cases hcomma : cs.head? = some ','
  · obtain ⟨rest, rfl⟩ := List.head?_eq_some_iff.mp hcomma
    rw [List.cons_append]
    by_cases hbrace : (flags.skip rest).head? = some '\x7d'
    · obtain ⟨tail, htail⟩ := List.head?_eq_some_iff.mp hbrace
      rcases flags.skip_append rest with heq | ⟨-, heq⟩
      · have hle := flags.length_skip_le rest
        rw [htail] at heq hle
        rw [readMost_brace htail, readMost_brace heq]
        exact .ok (Nat.le_succ_of_le hle)
      · rw [htail] at heq
        cases heq
    · rw [readMost_number hbrace,
        readMost_number ((head?_skip_append (by decide) flags rest).not.mpr hbrace)]
      exact ((readDecimal_skip_agrees flags rest).mono (Nat.le_succ _)).map fun _ _ => id
  · rw [readMost_of_head? hcomma, readMost_of_head? ((head?_append (by decide) cs).not.mpr hcomma)]
    exact .ok (Nat.le_refl _)

theorem closeBounds_of_head? (least : Nat) (most : Option Nat) (h : cs.head? ≠ some '\x7d') :
    closeBounds least most cs = .error .repetitionInvalid := by
  unfold closeBounds
  split
  next => exact absurd rfl h
  next => rfl

theorem closeBounds_agrees (least : Nat) (most : Option Nat) (cs : List Char) :
    Agrees Past cs.length (closeBounds least most cs) (closeBounds least most (cs ++ closing)) := by
  by_cases hbrace : cs.head? = some '\x7d'
  · obtain ⟨rest, rfl⟩ := List.head?_eq_some_iff.mp hbrace
    rw [List.cons_append, closeBounds, closeBounds]
    split
    · exact .ok (Nat.le_succ _)
    · exact .error _
  · rw [closeBounds_of_head? least most ((head?_append (by decide) cs).not.mpr hbrace)]
    exact .error _

theorem regroup_closeBounds (least : Nat) (most : Option Nat) (cs : List Char) :
    regroup (match cs with
      | '\x7d' :: rest =>
        if most.all (least ≤ ·) then .ok (least, most, rest) else .error .repetitionInvalid
      | _ => .error .repetitionInvalid) = closeBounds least most cs := by
  unfold closeBounds
  split
  · split <;> rfl
  · rfl

/-- The bounds of a repetition: the least number, the greatest, and the closing brace. -/
theorem regroup_readBounds (flags : Flags) (cs : List Char) :
    regroup (readBounds flags cs) =
      readDecimal flags (flags.skip cs) >>= fun first =>
        readMost flags first.1 first.2 >>= fun second =>
          closeBounds first.1 second.1 second.2 := by
  unfold readBounds
  cases readDecimal flags (flags.skip cs) with
  | error e => rfl
  | ok first =>
      obtain ⟨least, rest⟩ := first
      have hclose := regroup_closeBounds least
      simp only [bind, Except.bind]
      split
      next after =>
        split
        next tail htail =>
          rw [readMost_brace htail]
          exact hclose none ('\x7d' :: tail)
        next hbrace =>
          rw [readMost_number]
          · cases readDecimal flags (flags.skip after) with
            | error e => rfl
            | ok second => exact hclose _ _
          · intro hhead
            obtain ⟨tail, htail⟩ := List.head?_eq_some_iff.mp hhead
            exact hbrace tail htail
      next hcomma =>
        rw [readMost_of_head?]
        · exact hclose (some least) _
        · intro hhead
          obtain ⟨after, rfl⟩ := List.head?_eq_some_iff.mp hhead
          exact hcomma after rfl

theorem readBounds_agrees (flags : Flags) (cs : List Char) :
    Agrees Past cs.length (regroup (readBounds flags cs))
      (regroup (readBounds flags (cs ++ closing))) := by
  rw [regroup_readBounds, regroup_readBounds]
  refine (readDecimal_skip_agrees flags cs).bind (fun least rest hle => ?_)
    (fun least rest hbeyond => ?_)
  · refine ((readMost_agrees flags least rest).mono hle).bind
      (fun most rest hle => (closeBounds_agrees least most rest).mono hle)
      (fun most rest hbeyond => ?_)
    rw [closeBounds_of_head? least most (head?_beyond (by decide) hbeyond)]
    exact .error _
  · dsimp only
    rw [readMost_of_head? (head?_beyond (by decide) hbeyond)]
    dsimp only [bind, Except.bind]
    rw [closeBounds_of_head? least _ (head?_beyond (by decide) hbeyond)]
    exact .error _

end Bounds

theorem readCounted_mirrors (r : Reading) (cs : List Char) :
    Mirrors outer cs.length (r.readCounted cs) ((r.inside outer).readCounted (cs ++ closing)) := by
  unfold readCounted
  rw [inside_items, inside_flags]
  split
  · rw [bind_eq_regroup, bind_eq_regroup]
    refine .bind (readBounds_agrees r.flags cs) (fun bounds rest hle => ?_)
      (fun bounds rest hbeyond => ?_)
    · dsimp only
      rcases r.flags.skip_append rest with heq | ⟨heq, -⟩
      · rw [heq]
        refine (repeatLast_mirrors r _ _ _).mono ?_
        exact Nat.le_trans (r.flags.length_skip_le rest) hle
      · rw [heq]
        exact .of_dooms (repeatLast_dooms (inside_frames_ne_nil outer r) _ _ (.inl rfl)) _ _
    · exact repeatLast_dooms (inside_frames_ne_nil outer r) _ _ (r.flags.beyond_skip hbeyond)
  · exact .error _

/-! ## Steps -/

/-- The characters that do not stand for themselves. -/
def special : List Char := ['(', ')', '|', '[', '?', '*', '+', '\x7b', '\\', '.', '^', '$']

theorem step_of_not_special {r : Reading} {c : Char} {cs : List Char} (h : r.rest = c :: cs)
    (hc : c ∉ special) : r.step = .ok (r.pushPlain (charExpr r.flags c) cs) := by
  unfold step
  rw [h]
  split
  case h_1 heq => cases heq
  case h_14 heq =>
    cases heq
    rfl
  all_goals
    rename_i heq
    cases heq
    exact absurd (by decide) hc

/-- A step takes at least one character. -/
theorem step_mirrors {r : Reading} {c : Char} {cs : List Char} (h : r.rest = c :: cs) :
    Mirrors outer cs.length r.step (r.inside outer).step := by
  by_cases hc : c ∈ special
  · obtain ⟨rest, flags, frames, branches, items, groups, names⟩ := r
    cases h
    simp only [special, List.mem_cons, List.not_mem_nil, or_false] at hc
    rcases hc with rfl | rfl | rfl | rfl | rfl | rfl | rfl | rfl | rfl | rfl | rfl | rfl
    · exact readGroup_mirrors _ cs
    · exact closeGroup_mirrors _ cs
    · exact .ok (Nat.le_refl _)
    · exact .bind (readBracket_agrees flags cs) (fun set rest hle => .check fun e => .ok hle)
        (fun _ _ hlost => hlost.elim)
    · exact repeatLast_mirrors _ _ _ cs
    · exact repeatLast_mirrors _ _ _ cs
    · exact repeatLast_mirrors _ _ _ cs
    · exact readCounted_mirrors _ cs
    · refine .bind (readEscape_agrees flags cs) (fun atom rest hle => .check fun e => .ok hle)
        (fun atom rest hlost => .bind fun e => .ok ?_)
      rcases hlost with hbeyond | ⟨-, hstuck⟩
      · exact doomed_of_beyond (inside_frames_ne_nil outer _) hbeyond
      · exact doomed_of_stuck (inside_frames_ne_nil outer _) hstuck
    · obtain ⟨_, _, _, _, unicode, _, _⟩ := flags
      cases unicode with
      | true => exact .ok (Nat.le_refl _)
      | false => exact .error _
    · exact .ok (Nat.le_refl _)
    · exact .ok (Nat.le_refl _)
  · have h' : (r.inside outer).rest = c :: (cs ++ closing) := congrArg (· ++ closing) h
    rw [step_of_not_special h hc, step_of_not_special h' hc]
    exact .ok (Nat.le_refl _)

/-! ## Runs -/

theorem run_of_skip_nil {r : Reading} (h : r.flags.skip r.rest = []) (room : Nat) :
    run (room + 1) r = .ok { r with rest := [] } := by
  rw [run_succ, h]
  rfl

theorem run_of_skip_cons {r : Reading} {c : Char} {cs : List Char}
    (h : r.flags.skip r.rest = c :: cs) (room : Nat) :
    run (room + 1) r = step { r with rest := c :: cs } >>= run room := by
  rw [run_succ, h]
  rfl

/-- The reading behind the parenthesis that closes the group. -/
def closed (outer : Frame) (r : Reading) : Reading :=
  let body := match outer.index with
    | some index => .group index r.body.value
    | none => r.body.value
  { r with
    rest := ['$']
    flags := outer.flags
    frames := []
    branches := outer.branches
    items := some ⟨body, r.body.depth + 1⟩ :: outer.items }

/-- The reading at the end of the text. -/
def ended (r : Reading) : Reading :=
  r.pushPlain (.place (if r.flags.multiLine then .lineEnd r.flags.returns else .textEnd)) []

theorem step_closing {r : Reading} (h : r.frames = []) :
    step { r.inside outer with rest := ')' :: ['$'] } = .ok (r.closed outer) := by
  obtain ⟨rest, flags, frames, branches, items, groups, names⟩ := r
  cases h
  rfl

theorem run_closed {room : Nat} (hroom : 1 < room) (outer : Frame) (r : Reading) :
    run room (r.closed outer) = .ok (r.closed outer).ended := by
  obtain ⟨room, rfl⟩ : ∃ n, room = n + 2 := ⟨room - 2, by omega⟩
  have hstep : step (r.closed outer) = .ok (r.closed outer).ended := rfl
  rw [run_of_skip_cons (outer.flags.skip_beyond (.inr rfl))]
  exact hstep ▸ run_of_skip_nil outer.flags.skip_nil room

/-- Behind the pattern the group is closed, if nothing is open in it; else it stays open. -/
theorem run_closing {room : Nat} {r final' : Reading} (hroom : 2 < room)
    (h : r.flags.skip (r.rest ++ closing) = closing)
    (hrun : run room (r.inside outer) = .ok final') (hframes : final'.frames = []) :
    r.frames = [] ∧ final' = (r.closed outer).ended := by
  obtain ⟨room, rfl⟩ : ∃ n, room = n + 1 := ⟨room - 1, by omega⟩
  have hskip : (r.inside outer).flags.skip (r.inside outer).rest = ')' :: ['$'] := h
  rw [run_of_skip_cons hskip] at hrun
  cases hopen : r.frames with
  | nil =>
      rw [step_closing hopen] at hrun
      have hclosed : run room (r.closed outer) = .ok final' := hrun
      rw [run_closed (by omega)] at hclosed
      cases hclosed
      exact ⟨rfl, rfl⟩
  | cons f frames =>
      obtain ⟨_, _, _, _, _, _, _⟩ := r
      cases hopen
      refine absurd hframes (doomed_of_beyond ?_ (.inr rfl) room final' hrun)
      exact List.append_ne_nil_of_right_ne_nil _ (List.cons_ne_nil _ _)

/-- By induction on the room: step by step the pattern in the group is read like the pattern alone,
until this one ends and the group is closed, or it closes a group that it did not open. -/
theorem run_inside {room room' : Nat} {r final' : Reading} (hroom : r.rest.length < room)
    (hroom' : r.rest.length + 2 < room') (hrun : run room' (r.inside outer) = .ok final')
    (hframes : final'.frames = []) :
    run room r = .error .groupUnopened ∨
      ∃ final, run room r = .ok final ∧ final.frames = [] ∧
        final' = (final.closed outer).ended := by
  induction room generalizing room' r with
  | zero => cases hroom
  | succ room ih =>
      obtain ⟨room', rfl⟩ : ∃ n, room' = n + 1 := ⟨room' - 1, by omega⟩
      have hle := r.flags.length_skip_le r.rest
      rcases r.flags.skip_append r.rest with heq | ⟨heq, -⟩
      · cases hskip : r.flags.skip r.rest with
        | nil =>
            rw [hskip] at heq
            obtain ⟨hclosed, hfinal⟩ := run_closing (by omega) heq hrun hframes
            exact .inr ⟨{ r with rest := [] }, run_of_skip_nil hskip room, hclosed, hfinal⟩
        | cons c cs =>
            rw [hskip, List.length_cons] at hle
            rw [hskip] at heq
            have hskip' : (r.inside outer).flags.skip (r.inside outer).rest =
              c :: (cs ++ closing) := heq
            rw [run_of_skip_cons hskip'] at hrun
            rw [run_of_skip_cons hskip]
            have hstep : Mirrors outer cs.length (step { r with rest := c :: cs })
                (step { r.inside outer with rest := c :: (cs ++ closing) }) := step_mirrors rfl
            cases hbehind : step { r.inside outer with rest := c :: (cs ++ closing) } with
            | error e =>
                rw [hbehind] at hrun
                cases hrun
            | ok after' =>
                rw [hbehind] at hrun
                rcases hstep after' hbehind with hdoomed | hunopened | ⟨after, rfl, hlen, halone⟩
                · exact absurd hframes (hdoomed room' final' hrun)
                · rw [hunopened]
                  exact .inl rfl
                · rw [halone]
                  exact ih (by omega) (by omega) hrun
      · have hskip' : (r.inside outer).flags.skip (r.inside outer).rest = [] := heq
        rw [run_of_skip_nil hskip'] at hrun
        cases hrun
        exact absurd hframes (inside_frames_ne_nil outer r)

end Reading

end AttributeRelease.Pattern
