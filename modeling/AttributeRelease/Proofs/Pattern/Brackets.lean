import AttributeRelease.Pattern.Bracket
import AttributeRelease.Proofs.Pattern.Lookahead

/-!
# Brackets in front of what closes a group

A class that is not closed in its pattern is not closed behind it either: what stands there has no
bracket.
-/

namespace AttributeRelease.Pattern

open Text

/-! ## Members -/

theorem readMember_of_ne (flags : Flags) {c : Char} (h : c ≠ '\\') (rest : List Char) :
    readMember flags (c :: rest) = .ok (.char c false, rest) := by
  unfold readMember
  split
  case h_1 heq => cases heq
  case h_2 heq =>
    cases heq
    exact absurd rfl h
  case h_3 heq =>
    cases heq
    rfl

theorem readMember_agrees (flags : Flags) (c : Char) (cs : List Char) :
    Agrees (LostEscape flags) cs.length (readMember flags (c :: cs))
      (readMember flags (c :: (cs ++ closing))) := by
  by_cases hc : c = '\\'
  · subst hc
    exact readEscape_agrees flags cs
  · rw [readMember_of_ne flags hc, readMember_of_ne flags hc]
    exact .ok (Nat.le_refl _)

theorem endsSpan_iff (flags : Flags) (cs : List Char) :
    endsSpan flags cs ↔
      (flags.skip cs).head? = some ']' ∨ (flags.skip cs).head? = some '-' := by
  unfold endsSpan
  cases flags.skip cs with
  | nil => simp
  | cons c rest =>
      split
      case h_1 heq =>
        cases heq
        simp
      case h_2 heq =>
        cases heq
        simp
      case h_3 hclose hdash =>
        refine iff_of_false Bool.false_ne_true ?_
        rintro (⟨⟨⟩⟩ | ⟨⟨⟩⟩)
        · exact hclose rest rfl
        · exact hdash rest rfl

theorem endsSpan_append (flags : Flags) (cs : List Char) :
    endsSpan flags (cs ++ closing) = endsSpan flags cs := by
  rw [Bool.eq_iff_iff, endsSpan_iff, endsSpan_iff, head?_skip_append (by decide) flags cs,
    head?_skip_append (by decide) flags cs]

/-- What can be left of a class behind its pattern. -/
def Spent (rest : List Char) : Prop := rest = closing ∨ Beyond rest

theorem Flags.skip_spent (flags : Flags) {cs : List Char} (h : Spent cs) : flags.skip cs = cs := by
  rcases h with rfl | hbeyond
  · exact flags.skip_closing
  · exact flags.skip_beyond hbeyond

theorem readMember_skip_agrees (flags : Flags) (cs : List Char) :
    Agrees (fun atom rest => Spent rest ∨ ∃ p, atom = .place p) cs.length
      (readMember flags (flags.skip cs)) (readMember flags (flags.skip (cs ++ closing))) := by
  refine .skip flags (f := readMember flags) (g := readMember flags) (fun rest hle => ?_) (.error _)
  cases rest with
  | nil =>
      rw [List.nil_append, closing, readMember_of_ne flags (by decide)]
      exact (Loses.ok (.inl (.inr (.inr rfl)))).agrees _ _
  | cons c rest =>
      refine ((readMember_agrees flags c rest).weaken fun _ _ hlost => ?_).mono
        (Nat.le_of_succ_le hle)
      exact hlost.imp .inr And.left

/-- What is made of the first member of a span, by what follows it. -/
def spanFrom (flags : Flags) (first : Atom) : List Char → Except Fault (CharSet × List Char)
  | [] => .error .classUnclosed
  | '-' :: more =>
    if endsSpan flags more then do return (← memberSet flags first, '-' :: more)
    else do
      let (last, rest) ← readMember flags (flags.skip more)
      let low ← memberCode flags first
      let high ← memberCode flags last
      if low ≤ high then return (.range low high, rest) else .error .classSpanInvalid
  | rest => do return (← memberSet flags first, rest)

theorem readSpan_eq (flags : Flags) (cs : List Char) :
    readSpan flags cs = readMember flags cs >>= fun r => spanFrom flags r.1 (flags.skip r.2) := rfl

theorem spanFrom_of_ne (flags : Flags) (first : Atom) {c : Char} (h : c ≠ '-') (rest : List Char) :
    spanFrom flags first (c :: rest) =
      memberSet flags first >>= fun set => .ok (set, c :: rest) := by
  unfold spanFrom
  split
  case h_1 heq => cases heq
  case h_2 heq => exact absurd (List.cons.inj heq).1 h
  case h_3 => rfl

/-- A place is no member, and no end of a span. -/
theorem spanFrom_place (flags : Flags) (p : Place) (cs : List Char) :
    Loses (fun _ => Spent) (spanFrom flags (.place p) cs) := by
  unfold spanFrom
  split
  · exact .error _
  · split
    · exact .error _
    · exact .bind fun _ _ => .error _
  · exact .error _

theorem spanFrom_beyond (flags : Flags) (first : Atom) {cs : List Char} (h : Beyond cs) :
    Loses (fun _ => Spent) (spanFrom flags first cs) := by
  rcases h with rfl | rfl
  · exact .error _
  · exact .bind fun _ _ => .ok (.inr (.inr rfl))

/-- A dash stands for itself, or the last member of the span follows it. -/
theorem spanFrom_dash_agrees (flags : Flags) (first : Atom) (more : List Char) :
    Agrees (fun _ => Spent) (more.length + 1) (spanFrom flags first ('-' :: more))
      (spanFrom flags first ('-' :: (more ++ closing))) := by
  rw [spanFrom, spanFrom, endsSpan_append]
  split
  · exact .check fun _ _ => .ok (Nat.le_refl _)
  · refine (readMember_skip_agrees flags more).bind
      (fun last rest hle => ?_) (fun last rest hlost => ?_)
    · refine .check fun low _ => .check fun high _ => ?_
      split
      · exact .ok (Nat.le_succ_of_le hle)
      · exact .error _
    · refine .bind fun low _ => ?_
      rcases hlost with hspent | ⟨p, rfl⟩
      · refine .bind fun high _ => ?_
        split
        · exact .ok hspent
        · exact .error _
      · exact .error _

theorem spanFrom_agrees (flags : Flags) (first : Atom) (cs : List Char) :
    Agrees (fun _ => Spent) cs.length (spanFrom flags first cs)
      (spanFrom flags first (cs ++ closing)) := by
  cases cs with
  | nil => exact Loses.agrees (.bind fun _ _ => .ok (.inl rfl)) _ _
  | cons d more =>
      by_cases hd : d = '-'
      · subst hd
        exact spanFrom_dash_agrees flags first more
      · rw [List.cons_append, spanFrom_of_ne flags first hd, spanFrom_of_ne flags first hd]
        exact .check fun _ _ => .ok (Nat.le_refl _)

/-- A member of a class, or a span between two. -/
theorem readSpan_agrees (flags : Flags) (c : Char) (cs : List Char) :
    Agrees (fun _ => Spent) cs.length (readSpan flags (c :: cs))
      (readSpan flags (c :: (cs ++ closing))) := by
  rw [readSpan_eq, readSpan_eq]
  refine (readMember_agrees flags c cs).bind (fun first rest hle => ?_) (fun first rest hlost => ?_)
  · refine .skip flags (fun after hafter => ?_) (.error _)
    exact (spanFrom_agrees flags first after).mono (Nat.le_trans hafter hle)
  · rcases hlost with hbeyond | ⟨⟨p, rfl⟩, -⟩
    · exact spanFrom_beyond flags first (flags.beyond_skip hbeyond)
    · exact spanFrom_place flags p _

/-! ## Opening a class -/

theorem leadingDashes_of_ne (flags : Flags) (room : Nat) (members : Members) {c : Char}
    (h : c ≠ '-') (rest : List Char) :
    leadingDashes flags room members (c :: rest) = (members, c :: rest) := by
  cases room with
  | zero => rfl
  | succ room =>
      unfold leadingDashes
      split
      case h_1 heq => cases heq
      case h_2 heq => exact absurd (List.cons.inj heq).1 h
      case h_3 => rfl

theorem leadingDashes_nil (flags : Flags) (room : Nat) (members : Members) :
    leadingDashes flags room members [] = (members, []) := by
  cases room <;> rfl

theorem leadingDashes_agrees (flags : Flags) (members : Members) {room room' : Nat}
    {cs : List Char} (h : cs.length ≤ room) (h' : cs.length ≤ room') :
    Agrees Past cs.length (.ok (leadingDashes flags room members cs))
      (.ok (leadingDashes flags room' members (cs ++ closing))) := by
  induction room' generalizing room members cs with
  | zero =>
      obtain rfl := List.eq_nil_of_length_eq_zero (Nat.le_zero.mp h')
      rw [leadingDashes_nil]
      exact .ok (Nat.le_refl _)
  | succ room' ih =>
      cases cs with
      | nil =>
          rw [leadingDashes_nil]
          exact .ok (Nat.le_refl _)
      | cons c cs =>
          by_cases hc : c = '-'
          · subst hc
            cases room with
            | zero => cases h
            | succ room =>
                refine (Agrees.skip flags (n := cs.length)
                  (f := fun rest => .ok (leadingDashes flags room _ rest))
                  (g := fun rest => .ok (leadingDashes flags room' _ rest))
                  (fun rest hle => ?_) ?_).mono (Nat.le_succ _)
                · refine (ih _ ?_ ?_).mono hle
                  · exact Nat.le_trans hle (Nat.le_of_succ_le_succ h)
                  · exact Nat.le_trans hle (Nat.le_of_succ_le_succ h')
                · rw [leadingDashes_nil]
                  exact .ok (.inl rfl)
          · rw [List.cons_append, leadingDashes_of_ne flags room members hc,
              leadingDashes_of_ne flags (room' + 1) members hc]
            exact .ok (Nat.le_refl _)

/-- A caret behind an opening bracket, with what is left. -/
def takeCaret (flags : Flags) : List Char → Bool × List Char
  | '^' :: rest => (true, flags.skip rest)
  | cs => (false, cs)

theorem takeCaret_of_ne (flags : Flags) {c : Char} (h : c ≠ '^') (rest : List Char) :
    takeCaret flags (c :: rest) = (false, c :: rest) := by
  unfold takeCaret
  split
  case h_1 heq => exact absurd (List.cons.inj heq).1 h
  case h_2 => rfl

theorem takeCaret_agrees (flags : Flags) (cs : List Char) :
    Agrees Past cs.length (.ok (takeCaret flags cs)) (.ok (takeCaret flags (cs ++ closing))) := by
  cases cs with
  | nil => exact .ok (Nat.le_refl _)
  | cons c cs =>
      by_cases hc : c = '^'
      · subst hc
        exact .ok_skip flags (Nat.le_succ _)
      · rw [List.cons_append, takeCaret_of_ne flags hc, takeCaret_of_ne flags hc]
        exact .ok (Nat.le_refl _)

/-- A closing bracket that stands for itself where nothing else stands before it. -/
def takeBracket (flags : Flags) : Members × List Char → Members × List Char
  | (members, ']' :: rest) =>
    if members.set.isEmpty then (members.addPlain (.singleton ']'.toNat), flags.skip rest)
    else (members, ']' :: rest)
  | (members, cs) => (members, cs)

theorem takeBracket_of_ne (flags : Flags) (members : Members) {c : Char} (h : c ≠ ']')
    (rest : List Char) : takeBracket flags (members, c :: rest) = (members, c :: rest) := by
  unfold takeBracket
  split
  case h_1 heq => exact absurd (List.cons.inj (Prod.mk.inj heq).2).1 h
  case h_2 heq => exact heq.symm

theorem takeBracket_agrees (flags : Flags) (members : Members) (cs : List Char) :
    Agrees Past cs.length (.ok (takeBracket flags (members, cs)))
      (.ok (takeBracket flags (members, cs ++ closing))) := by
  cases cs with
  | nil => exact .ok (Nat.le_refl _)
  | cons c cs =>
      by_cases hc : c = ']'
      · subst hc
        rw [List.cons_append, takeBracket, takeBracket]
        split
        · exact .ok_skip flags (Nat.le_succ _)
        · exact .ok (Nat.le_refl _)
      · rw [List.cons_append, takeBracket_of_ne flags members hc,
          takeBracket_of_ne flags members hc]
        exact .ok (Nat.le_refl _)

theorem takeBracket_beyond (flags : Flags) (members : Members) {cs : List Char} (h : Beyond cs) :
    takeBracket flags (members, cs) = (members, cs) := by
  rcases h with rfl | rfl <;> rfl

/-- What is read behind an opening bracket, up to the first member: whether there is a caret, and
what the class holds so far. -/
def readOpening (flags : Flags) (cs : List Char) :
    Except Fault ((Bool × Members) × List Char) := do
  let (negated, rest) ← .ok (takeCaret flags (flags.skip cs))
  let (members, rest) ← .ok (leadingDashes flags rest.length {} rest)
  let (members, rest) ← .ok (takeBracket flags (members, rest))
  return ((negated, members), rest)

theorem readOpening_eq (flags : Flags) (cs : List Char) :
    readOpening flags cs =
      .ok (((openBracket flags cs).1, (openBracket flags cs).2.1), (openBracket flags cs).2.2) := by
  have hcaret : openBracket flags cs =
      match leadingDashes flags (takeCaret flags (flags.skip cs)).2.length {}
        (takeCaret flags (flags.skip cs)).2 with
      | (members, ']' :: rest) =>
        if members.set.isEmpty then
          ((takeCaret flags (flags.skip cs)).1, members.addPlain (.singleton ']'.toNat),
            flags.skip rest)
        else ((takeCaret flags (flags.skip cs)).1, members, ']' :: rest)
      | (members, after) => ((takeCaret flags (flags.skip cs)).1, members, after) := rfl
  have hopening : readOpening flags cs =
      .ok (((takeCaret flags (flags.skip cs)).1,
        (takeBracket flags (leadingDashes flags (takeCaret flags (flags.skip cs)).2.length {}
          (takeCaret flags (flags.skip cs)).2)).1),
        (takeBracket flags (leadingDashes flags (takeCaret flags (flags.skip cs)).2.length {}
          (takeCaret flags (flags.skip cs)).2)).2) := rfl
  rw [hcaret, hopening]
  generalize leadingDashes flags _ _ _ = dashes
  unfold takeBracket
  split
  · split <;> rfl
  · rfl

theorem readOpening_agrees (flags : Flags) (cs : List Char) :
    Agrees Past cs.length (readOpening flags cs) (readOpening flags (cs ++ closing)) := by
  have hcaret : Agrees Past cs.length (.ok (takeCaret flags (flags.skip cs)))
      (.ok (takeCaret flags (flags.skip (cs ++ closing)))) :=
    .skip flags (f := fun rest => .ok (takeCaret flags rest))
      (g := fun rest => .ok (takeCaret flags rest))
      (fun rest hle => (takeCaret_agrees flags rest).mono hle) (.ok (.inl rfl))
  refine hcaret.bind (fun negated rest hle => ?_) (fun negated rest hbeyond => ?_)
  · have hdashes := leadingDashes_agrees flags {} (Nat.le_refl rest.length)
      (by simp : rest.length ≤ (rest ++ closing).length)
    refine (hdashes.mono hle).bind (fun members rest hle => ?_) (fun members rest hbeyond => ?_)
    · refine ((takeBracket_agrees flags members rest).mono hle).bind
        (fun _ rest hle => .ok hle) (fun _ rest hbeyond => .ok hbeyond)
    · dsimp only
      rw [takeBracket_beyond flags members hbeyond]
      exact .ok hbeyond
  · rcases hbeyond with rfl | rfl
    · exact .ok (.inl rfl)
    · exact .ok (.inr rfl)

/-! ## Classes with names -/

/-- What is left behind the colon and the bracket that end the name of a class. -/
def afterName? : List Char → Option (List Char)
  | ':' :: ']' :: rest => some rest
  | _ => none

theorem afterName?_append (cs : List Char) :
    afterName? (cs ++ closing) = (afterName? cs).map (· ++ closing) := by
  unfold afterName?
  split
  next rest heq =>
    match cs with
    | [] => cases heq
    | [_] => cases heq
    | _ :: _ :: _ =>
        cases heq
        rfl
  next hnone =>
    split
    next rest => exact absurd rfl (hnone (rest ++ closing))
    next => rfl

theorem length_afterName?_le {cs rest : List Char} (h : afterName? cs = some rest) :
    rest.length ≤ cs.length := by
  unfold afterName? at h
  split at h
  · cases h
    exact Nat.le_add_right _ 2
  · cases h

/-- The class with a name, with or without a caret before the name. -/
def namedClass? (flags : Flags) (negated : Bool) (cs : List Char) : Option (CharSet × List Char) :=
  (afterName? (cs.dropWhile (· ≠ ':'))).bind fun rest =>
    (Class.ascii? (String.ofList (cs.takeWhile (· ≠ ':')))).map fun set =>
      let set := Class.fold flags set
      (if negated then Class.negate flags set else set, rest)

theorem namedClass?_append (flags : Flags) (negated : Bool) (cs : List Char) :
    namedClass? flags negated (cs ++ closing) =
      (namedClass? flags negated cs).map fun r => (r.1, r.2 ++ closing) := by
  rw [namedClass?, namedClass?]
  rcases cut_append (c := ':') (by decide) cs with ⟨hnone, hnone'⟩ | ⟨-, hafter, hname⟩
  · rw [hnone, hnone']
    rfl
  · rw [hafter, hname, afterName?_append]
    cases afterName? (cs.dropWhile (· ≠ ':')) with
    | none => rfl
    | some rest => simp [Function.comp_def]

/-- A caret before a name, where no blanks are passed over. -/
theorem takeCaret_append (cs : List Char) :
    takeCaret {} (cs ++ closing) = ((takeCaret {} cs).1, (takeCaret {} cs).2 ++ closing) := by
  cases cs with
  | nil => rfl
  | cons c cs =>
      by_cases hc : c = '^'
      · subst hc
        rfl
      · rw [List.cons_append, takeCaret_of_ne {} hc, takeCaret_of_ne {} hc]
        rfl

theorem asciiClass?_colon (flags : Flags) (cs : List Char) :
    asciiClass? flags (':' :: cs) =
      namedClass? flags (takeCaret {} cs).1 (takeCaret {} cs).2 := by
  have hcaret : asciiClass? flags (':' :: cs) =
      match (takeCaret {} cs).2.dropWhile (· ≠ ':') with
      | ':' :: ']' :: rest =>
        (Class.ascii? (String.ofList ((takeCaret {} cs).2.takeWhile (· ≠ ':')))).map fun set =>
          let set := Class.fold flags set
          (if (takeCaret {} cs).1 then Class.negate flags set else set, rest)
      | _ => none := rfl
  rw [hcaret, namedClass?]
  unfold afterName?
  split <;> rfl

theorem asciiClass?_of_ne (flags : Flags) {c : Char} (h : c ≠ ':') (rest : List Char) :
    asciiClass? flags (c :: rest) = none := by
  unfold asciiClass?
  split
  case h_1 heq => exact absurd (List.cons.inj heq).1 h
  case h_2 => rfl

theorem asciiClass?_append (flags : Flags) (cs : List Char) :
    asciiClass? flags (cs ++ closing) =
      (asciiClass? flags cs).map fun r => (r.1, r.2 ++ closing) := by
  cases cs with
  | nil => rfl
  | cons c cs =>
      by_cases hc : c = ':'
      · subst hc
        rw [List.cons_append, asciiClass?_colon, asciiClass?_colon, takeCaret_append,
          namedClass?_append]
      · rw [List.cons_append, asciiClass?_of_ne flags hc, asciiClass?_of_ne flags hc]
        rfl

theorem length_asciiClass?_le {flags : Flags} {cs rest : List Char} {set : CharSet}
    (h : asciiClass? flags cs = some (set, rest)) : rest.length ≤ cs.length := by
  cases cs with
  | nil => cases h
  | cons c cs =>
      by_cases hc : c = ':'
      · subst hc
        rw [asciiClass?_colon, namedClass?, Option.bind_eq_some_iff] at h
        obtain ⟨after, hafter, hset⟩ := h
        obtain ⟨found, -, ⟨⟩⟩ := Option.map_eq_some_iff.mp hset
        have hcaret : (takeCaret {} cs).2.length ≤ cs.length := by
          unfold takeCaret
          split
          · exact Nat.le_succ _
          · exact Nat.le_refl _
        have hname := (List.dropWhile_sublist (· ≠ ':') (l := (takeCaret {} cs).2)).length_le
        exact Nat.le_succ_of_le
          (Nat.le_trans (length_afterName?_le hafter) (Nat.le_trans hname hcaret))
      · rw [asciiClass?_of_ne flags hc] at h
        cases h

/-! ## Classes -/

/-- The character that stands twice for an operation. -/
def SetOp.sign : SetOp → Char
  | inter => '&'
  | diff => '-'
  | symmDiff => '~'

section Steps

variable {flags : Flags} {room : Nat} {pending : List Pending} {members : Members}
  {cs rest : List Char}

theorem readClass_nil (h : flags.skip cs = []) :
    readClass flags (room + 1) pending members cs = .error .classUnclosed := by
  rw [readClass, h]

theorem readClass_open (h : flags.skip cs = '[' :: rest) :
    readClass flags (room + 1) pending members cs =
      match asciiClass? flags rest with
      | some (s, rest) => readClass flags room pending (members.addPlain s) rest
      | none => readOpening flags rest >>= fun r =>
        readClass flags room (.bracket r.1.1 members :: pending) r.1.2 r.2 := by
  rw [readClass, h, readOpening_eq]
  rfl

theorem readClass_close (h : flags.skip cs = ']' :: rest) :
    readClass flags (room + 1) pending members cs =
      match (closeOperation flags members.whole pending).2 with
      | .bracket negated outer :: pending' =>
        let set := Class.fold flags (closeOperation flags members.whole pending).1.value
        let whole : Nested CharSet :=
          ⟨if negated then Class.negate flags set else set,
            (closeOperation flags members.whole pending).1.depth + 1⟩
        if pending'.isEmpty then .ok (whole, rest)
        else readClass flags room pending' (outer.add whole) rest
      | _ => .error .classUnclosed := by
  rw [readClass, h]
  rfl

theorem readClass_operation {op : SetOp} (h : flags.skip cs = op.sign :: op.sign :: rest) :
    readClass flags (room + 1) pending members cs =
      readClass flags room (.operation op (closeOperation flags members.whole pending).1 ::
        (closeOperation flags members.whole pending).2) {} rest := by
  rw [readClass, h]
  cases op <;> rfl

theorem readClass_member {c : Char} (h : flags.skip cs = c :: rest) (hopen : c ≠ '[')
    (hclose : c ≠ ']') (hop : ∀ op : SetOp, c = op.sign → rest.head? ≠ some op.sign) :
    readClass flags (room + 1) pending members cs =
      readSpan flags (c :: rest) >>= fun (s, rest) =>
        readClass flags room pending (members.addPlain s) rest := by
  rw [readClass, h]
  split
  case h_1 heq => cases heq
  case h_2 heq => exact absurd (List.cons.inj heq).1 hopen
  case h_3 heq => exact absurd (List.cons.inj heq).1 hclose
  case h_4 heq =>
    cases heq
    exact absurd rfl (hop .inter rfl)
  case h_5 heq =>
    cases heq
    exact absurd rfl (hop .diff rfl)
  case h_6 heq =>
    cases heq
    exact absurd rfl (hop .symmDiff rfl)
  case h_7 => rfl

end Steps

theorem readSpan_end (flags : Flags) : readSpan flags ['$'] = .error .classUnclosed := by
  rw [readSpan, readMember_of_ne flags (by decide)]
  simp only [bind, Except.bind, flags.skip_nil]

theorem readSpan_closing (flags : Flags) :
    readSpan flags closing = .ok (.singleton ')'.toNat, ['$']) := by
  have hmember : memberSet flags (.char ')' false) = .ok (.singleton ')'.toNat) := by
    simp [memberSet, memberCode, Except.map]
  rw [readSpan, closing, readMember_of_ne flags (by decide)]
  simp only [bind, Except.bind, flags.skip_beyond (.inr rfl), hmember]
  rfl

/-- No bracket is closed by what stands behind the pattern. -/
theorem readClass_spent (flags : Flags) (room : Nat) (pending : List Pending) (members : Members)
    {cs : List Char} (h : Spent (flags.skip cs)) :
    ∃ e, readClass flags room pending members cs = .error e := by
  induction room generalizing members cs with
  | zero => exact ⟨_, rfl⟩
  | succ room ih =>
      rcases h with hclosing | hnil | hend
      · rw [readClass_member hclosing (by decide) (by decide) (by rintro (_ | _ | _) ⟨⟩)]
        have hrest : Spent (flags.skip ['$']) := .inr (flags.beyond_skip (.inr rfl))
        obtain ⟨e, he⟩ := ih (members.addPlain (.singleton ')'.toNat)) hrest
        refine ⟨e, ?_⟩
        rw [← closing, readSpan_closing]
        exact he
      · exact ⟨_, readClass_nil hnil⟩
      · rw [readClass_member hend (by decide) (by decide) (by rintro (_ | _ | _) ⟨⟩),
          readSpan_end]
        exact ⟨_, rfl⟩

/-- What is left behind the pattern is of no use to a class. -/
theorem readClass_loses (flags : Flags) (room : Nat) (pending : List Pending) (members : Members)
    {cs : List Char} (h : Spent cs) :
    Loses (fun _ _ => False) (readClass flags room pending members cs) := by
  obtain ⟨e, he⟩ := readClass_spent flags room pending members ((flags.skip_spent h).symm ▸ h)
  rw [he]
  exact .error _

/-- No operation comes in sight behind the pattern. -/
theorem head?_append_ne_sign {op : SetOp} {cs : List Char} (h : cs.head? ≠ some op.sign) :
    (cs ++ closing).head? ≠ some op.sign :=
  (head?_append (by cases op <;> decide) cs).not.mpr h

/-- One step in a class, if it goes on in the same way. -/
theorem readClass_step_agrees {flags : Flags} {room room' n : Nat} {members : Members}
    {pending : List Pending} {cs rest : List Char} {c : Char} (hskip : flags.skip cs = c :: rest)
    (hskip' : flags.skip (cs ++ closing) = c :: (rest ++ closing)) (hn : rest.length ≤ n)
    (hgo : ∀ {pending members after}, after.length ≤ rest.length →
      Agrees (fun _ _ => False) n (readClass flags room pending members after)
        (readClass flags room' pending members (after ++ closing))) :
    Agrees (fun _ _ => False) n (readClass flags (room + 1) pending members cs)
      (readClass flags (room' + 1) pending members (cs ++ closing)) := by
  by_cases hopen : c = '['
  · subst hopen
    rw [readClass_open hskip, readClass_open hskip', asciiClass?_append]
    cases hascii : asciiClass? flags rest with
    | some found => exact hgo (length_asciiClass?_le hascii)
    | none =>
        exact (readOpening_agrees flags rest).bind (fun _ _ hafter => hgo hafter)
          (fun _ _ hbeyond => readClass_loses flags room' _ _ (.inr hbeyond))
  by_cases hclose : c = ']'
  · subst hclose
    rw [readClass_close hskip, readClass_close hskip']
    split
    · dsimp only
      split
      · exact .ok hn
      · exact hgo (Nat.le_refl _)
    · exact .error _
  by_cases hop : ∃ op : SetOp, c = op.sign ∧ rest.head? = some op.sign
  · obtain ⟨op, rfl, hhead⟩ := hop
    obtain ⟨after, rfl⟩ := List.head?_eq_some_iff.mp hhead
    rw [readClass_operation hskip, readClass_operation hskip']
    exact hgo (Nat.le_succ _)
  · have hplain (op : SetOp) (hc : c = op.sign) : rest.head? ≠ some op.sign :=
      fun hhead => hop ⟨op, hc, hhead⟩
    rw [readClass_member hskip hopen hclose hplain,
      readClass_member hskip' hopen hclose fun op hc => head?_append_ne_sign (hplain op hc)]
    exact (readSpan_agrees flags c rest).bind (fun _ _ hafter => hgo hafter)
      (fun _ _ hspent => readClass_loses flags room' _ _ hspent)

/-- Nothing is lost: a class that is closed is closed in its pattern.  By induction on the room that
the reader has behind the pattern; every step leaves less of the pattern. -/
theorem readClass_agrees (flags : Flags) {room room' : Nat} {pending : List Pending}
    {members : Members} {cs : List Char} (h : cs.length < room) :
    Agrees (fun _ _ => False) cs.length (readClass flags room pending members cs)
      (readClass flags room' pending members (cs ++ closing)) := by
  induction room' generalizing room pending members cs with
  | zero => exact .error _
  | succ room' ih =>
      cases room with
      | zero => cases h
      | succ room =>
          rcases flags.skip_append cs with heq | ⟨heq, -⟩
          · cases hskip : flags.skip cs with
            | nil =>
                have hspent : Spent (flags.skip (cs ++ closing)) := .inl (by rw [heq, hskip]; rfl)
                obtain ⟨e, he⟩ := readClass_spent flags (room' + 1) pending members hspent
                rw [he]
                exact .error _
            | cons c rest =>
                have hlength : rest.length + 1 ≤ cs.length := by
                  have hle := flags.length_skip_le cs
                  rwa [hskip] at hle
                rw [hskip] at heq
                refine readClass_step_agrees hskip heq (Nat.le_of_succ_le hlength) fun hafter => ?_
                exact (ih (by omega)).mono (by omega)
          · rw [readClass_nil heq]
            exact .error _

theorem readBracket_eq (flags : Flags) (cs : List Char) :
    readBracket flags cs = readOpening flags cs >>= fun r =>
      readClass flags (cs.length + 1) [.bracket r.1.1 {}] r.1.2 r.2 := by
  rw [readOpening_eq]
  rfl

theorem readBracket_agrees (flags : Flags) (cs : List Char) :
    Agrees (fun _ _ => False) cs.length (readBracket flags cs)
      (readBracket flags (cs ++ closing)) := by
  rw [readBracket_eq, readBracket_eq]
  refine (readOpening_agrees flags cs).bind (fun opening rest hle => ?_)
    (fun opening rest hbeyond => ?_)
  · exact (readClass_agrees flags (Nat.lt_succ_of_le hle)).mono hle
  · obtain ⟨e, he⟩ := readClass_spent flags ((cs ++ closing).length + 1)
      [.bracket opening.1 {}] opening.2 (.inr (flags.beyond_skip hbeyond))
    rw [he]
    exact .error _

end AttributeRelease.Pattern
