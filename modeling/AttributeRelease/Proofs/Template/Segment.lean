import AttributeRelease.Proofs.Template.Outline

/-!
# References of two segments

A reference is written as two segments with a dot between them.  A segment is a plain name, such as
that of a field of the request, or any text between brackets, such as the number of an item or the
id of an attribute that is not a plain name.
-/

namespace AttributeRelease.Template

/-- A segment of a path as it is written. -/
inductive Segment
  | plain (cs : List Char)
  | bracketed (cs : List Char)

namespace Segment

def text : Segment → List Char
  | plain cs => cs
  | bracketed cs => '[' :: cs ++ [']']

/-- The characters that a segment is written for. -/
def chars : Segment → List Char
  | plain cs => cs
  | bracketed cs => cs

/-- Whether a segment can be read; `this` would stand for the value itself. -/
def Valid : Segment → Prop
  | plain cs => cs ≠ [] ∧ (∀ c ∈ cs, isSymbol c = true) ∧ cs ≠ "this".toList
  | bracketed cs => ']' ∉ cs ∧ cs ≠ "this".toList

/-- The name of the part that a segment leads to. -/
def name (a : Segment) : String := String.ofList a.chars

variable {a : Segment}

theorem Valid.name_ne (h : a.Valid) : a.name ≠ "this" := by
  have hne : a.chars ≠ "this".toList := by
    cases a with
    | plain cs => exact h.2.2
    | bracketed cs => exact h.2
  intro heq
  rw [← heq, name, String.toList_ofList] at hne
  exact hne rfl

/-- Characters that have a meaning of their own at the front of a tag or of a path. -/
def reserved : List Char :=
  ['@', '.', '/', '\x7b', '\x7d', '#', '>', '*', '&', '^', '!', '~', '(', ' ', '\n', '\t', '\r']

theorem not_reserved_of_isSymbol {c : Char} (h : isSymbol c = true) : c ∉ reserved := by
  have hreserved : reserved.all (!isSymbol ·) = true := by decide
  intro hc
  have hc := List.all_eq_true.mp hreserved c hc
  rw [h] at hc
  cases hc

theorem Valid.head (h : a.Valid) : ∃ c more, a.text = c :: more ∧ c ∉ reserved := by
  cases a with
  | plain cs =>
      obtain ⟨hne, hsymbol, -⟩ := h
      obtain ⟨c, more, rfl⟩ := List.exists_cons_of_ne_nil hne
      exact ⟨c, more, rfl, not_reserved_of_isSymbol (hsymbol c List.mem_cons_self)⟩
  | bracketed cs => exact ⟨'[', cs ++ [']'], rfl, by decide⟩

theorem identifier?_append {cs : List Char} (hne : cs ≠ [])
    (hsymbol : ∀ c ∈ cs, isSymbol c = true) (tail : List Char)
    (htail : startsSymbol tail = false) :
    identifier? (cs ++ tail) = some (String.ofList cs, tail) := by
  have htake : (cs ++ tail).takeWhile isSymbol = cs := by
    rw [List.takeWhile_append_of_pos hsymbol]
    cases tail with
    | nil => simp
    | cons c tail =>
        have hc : isSymbol c = false := htail
        simp [hc]
  rw [identifier?, htake, if_neg (by simpa using hne), List.drop_left]

theorem Valid.pathPart?_append (h : a.Valid) (tail : List Char)
    (htail : startsSymbol tail = false) : pathPart? (a.text ++ tail) = some (a.name, tail) := by
  cases a with
  | plain cs =>
      obtain ⟨hne, hsymbol, -⟩ := h
      have hread := identifier?_append hne hsymbol tail htail
      rw [text, pathPart?]
      · exact hread
      · intro rest heq
        obtain ⟨c, more, rfl⟩ := List.exists_cons_of_ne_nil hne
        cases heq
        exact absurd (hsymbol '[' List.mem_cons_self) (by decide)
  | bracketed cs =>
      have hcs : ∀ c ∈ cs, (decide (c ≠ ']')) = true := by
        intro c hc
        rw [decide_eq_true_eq]
        rintro rfl
        exact h.1 hc
      have hend : cs ++ [']'] ++ tail = cs ++ ']' :: tail := by simp
      rw [text, List.cons_append, List.cons_append, hend, pathPart?]
      simp only [List.dropWhile_append_of_pos hcs, List.takeWhile_append_of_pos hcs]
      simp [Segment.name, chars]

theorem startsSymbol_of_separator {cs : List Char} (h : (separator? cs).isSome = true) :
    startsSymbol cs = false := by
  rw [separator?.eq_def] at h
  split at h
  · rfl
  · rfl
  · cases h

/-- A name does not begin with a reference to the focus. -/
theorem Valid.not_current (h : a.Valid) (rest : List Char) :
    (after? "this".toList (a.text ++ '.' :: rest)).bind separator? = none := by
  rcases hafter : after? "this".toList (a.text ++ '.' :: rest) with _ | more
  · rfl
  rw [Option.bind_some, ← Option.not_isSome_iff_eq_none]
  intro hseparator
  have heq := after?_eq_some hafter
  cases a with
  | plain cs =>
      obtain ⟨hne, hsymbol, hthis⟩ := h
      have hname := identifier?_append hne hsymbol ('.' :: rest) rfl
      have hread := identifier?_append (show "this".toList ≠ [] by decide)
        (List.all_eq_true.mp (by decide)) more
        (startsSymbol_of_separator hseparator)
      change cs ++ '.' :: rest = _ at heq
      rw [heq, hread] at hname
      have hcs : String.ofList "this".toList = String.ofList cs :=
        congrArg Prod.fst (Option.some.inj hname)
      exact hthis (String.ofList_injective hcs).symm
  | bracketed cs => cases heq

end Segment

/-- What begins with a segment does not begin with any of those characters. -/
theorem after?_cons_of_reserved {c d : Char} (hc : c ∉ Segment.reserved)
    (hd : d ∈ Segment.reserved) {expected cs : List Char} :
    after? (d :: expected) (c :: cs) = none :=
  if_neg fun (h : d = c) => hc (h ▸ hd)

/-! ## Paths -/

theorem afterCurrent_eq {cs : List Char} (room : Nat)
    (hthis : (after? "this".toList cs).bind separator? = none)
    (hdot : after? ['.', '/'] cs = none) : afterCurrent room cs = cs := by
  cases room with
  | zero => rfl
  | succ room => rw [afterCurrent, hthis, hdot]; rfl

theorem pathUps_eq {cs : List Char} (room : Nat) (h : after? ['.', '.'] cs = none) :
    pathUps room cs = (0, cs) := by
  cases room with
  | zero => rfl
  | succ room => rw [pathUps, h]; rfl

theorem pathParts_eq {cs : List Char} (room : Nat) (h : separator? cs = none) :
    pathParts room cs = ([], cs) := by
  cases room with
  | zero => rfl
  | succ room => rw [pathParts, h]; rfl

section Segments

variable {a b : Segment}

/-- What is written between the braces. -/
def segmentsText (a b : Segment) : List Char := a.text ++ '.' :: b.text

def segmentsPath (a b : Segment) : Path :=
  ⟨String.ofList (segmentsText a b), false, 0, [a.name, b.name]⟩

/-- A path is read up to what cannot go on with it. -/
theorem path?_segments (ha : a.Valid) (hb : b.Valid) {tail : List Char}
    (hsymbol : startsSymbol tail = false) (hseparator : separator? tail = none) :
    path? (segmentsText a b ++ tail) = some (.path (segmentsPath a b), tail) := by
  obtain ⟨c, more, htext, hc⟩ := ha.head
  have hcs : segmentsText a b ++ tail = a.text ++ '.' :: (b.text ++ tail) := by
    simp [segmentsText]
  have hcurrent := ha.not_current (b.text ++ tail)
  have hfirst := ha.pathPart?_append ('.' :: (b.text ++ tail)) rfl
  have hsecond := hb.pathPart?_append tail hsymbol
  have hraw : (segmentsText a b ++ tail).take
      ((segmentsText a b ++ tail).length - tail.length) = segmentsText a b := by
    simp
  have hparts : pathParts ('.' :: (b.text ++ tail)).length ('.' :: (b.text ++ tail)) =
      ([b.name], tail) := by
    rw [List.length_cons, pathParts]
    simp only [separator?, Option.bind_some, hsecond, pathParts_eq _ hseparator]
  have hhead : segmentsText a b ++ tail = c :: (more ++ '.' :: (b.text ++ tail)) := by
    rw [hcs, htext, List.cons_append]
  have hnot : ∀ d ∈ Segment.reserved, ∀ expected,
      after? (d :: expected) (segmentsText a b ++ tail) = none := by
    intro d hd expected
    rw [hhead]
    exact after?_cons_of_reserved hc hd
  have hslash := hnot '.' (by decide) ['/']
  have hups := hnot '.' (by decide) ['.']
  have hroot : after? "@root".toList (segmentsText a b ++ tail) = none :=
    hnot '@' (by decide) "root".toList
  have hread : pathPart? (segmentsText a b ++ tail) =
      some (a.name, '.' :: (b.text ++ tail)) := by
    rw [hcs, hfirst]
  have hnames : [a.name, b.name].filter (· ≠ "this") = [a.name, b.name] := by
    simp [ha.name_ne, hb.name_ne]
  rw [path?, afterCurrent_eq _ (hcs ▸ hcurrent) hslash, hroot]
  dsimp only [Option.bind_none]
  split
  case h_1 rest heq =>
    rw [hhead] at heq
    cases heq
    exact absurd (by decide) hc
  case h_2 =>
    rw [pathUps_eq _ hups]
    simp only [hread, Option.map_some, hparts, hraw, hnames]
    rfl

end Segments

/-! ## Tags -/

section Tags

variable {c : Char} {cs : List Char}

theorem skip_cons (hc : c ∉ Segment.reserved) : skip (c :: cs) = c :: cs := by
  have hgap : Json.isGap c = false := by
    rw [Bool.eq_false_iff]
    intro h
    simp only [Json.isGap, Bool.or_eq_true, beq_iff_eq] at h
    rcases h with ((rfl | rfl) | rfl) | rfl <;> exact hc (by decide)
  exact List.dropWhile_cons_of_neg (by simp [hgap])

theorem tilde_cons (hc : c ∉ Segment.reserved) : tilde (c :: cs) = (false, c :: cs) := by
  rw [tilde, skip_cons hc]
  split
  case h_1 rest heq =>
    cases heq
    exact absurd (by decide) hc
  case h_2 => rfl

theorem finish?_cons (hc : c ∉ Segment.reserved) (trims : Bool) (tag : Tag) :
    finish? "\x7d\x7d" trims tag (c :: cs) = none := by
  have hbrace : after? "\x7d\x7d".toList (c :: cs) = none :=
    after?_cons_of_reserved hc (by decide)
  rw [finish?, tilde_cons hc]
  simp only [token?, skip_cons hc, hbrace, Option.map_none]

theorem path?_dot (hc : c ∉ Segment.reserved) : path? ('.' :: c :: cs) = none := by
  have hslash : after? ['.', '/'] ('.' :: c :: cs) = none := by
    rw [after?, if_pos rfl]
    exact after?_cons_of_reserved hc (by decide)
  have hups : after? ['.', '.'] ('.' :: c :: cs) = none := by
    rw [after?, if_pos rfl]
    exact after?_cons_of_reserved hc (by decide)
  have hroot : after? "@root".toList ('.' :: c :: cs) = none := rfl
  have hpart : pathPart? ('.' :: c :: cs) = none := rfl
  rw [path?, afterCurrent_eq _ rfl hslash, hroot]
  dsimp only [Option.bind_none]
  split
  case h_1 rest heq => cases heq
  case h_2 => rw [pathUps_eq _ hups, hpart, Option.map_none]

theorem param?_dot (hc : c ∉ Segment.reserved) (room : Nat) :
    param? room ('.' :: c :: cs) = none := by
  cases room with
  | zero => rfl
  | succ room =>
      have hkeyword : startsKeyword ('.' :: c :: cs) = false := rfl
      have hliteral : literal? ('.' :: c :: cs) = none := rfl
      rw [param?]
      · rw [hkeyword, hliteral]
        exact path?_dot hc
      · intro rest heq
        cases heq

/-- Neither a parameter nor an option begins with a dot that a segment follows. -/
theorem arguments_dot (hc : c ∉ Segment.reserved) (room : Nat) :
    arguments room ('.' :: c :: cs) = ([], [], '.' :: c :: cs) := by
  cases room with
  | zero => rfl
  | succ room =>
      have hskip : skip ('.' :: c :: cs) = '.' :: c :: cs := rfl
      have hidentifier : identifier? ('.' :: c :: cs) = none := rfl
      rw [arguments]
      simp only [hskip, hidentifier, Option.bind_none, param?_dot hc]

/-- The second body of a block does not begin where a name begins with its keyword. -/
theorem otherwise_dot (hc : c ∉ Segment.reserved) {name : List Char}
    (hsymbol : ∀ c ∈ name, isSymbol c = true) (trims : Bool) :
    (finish? "\x7d\x7d" trims .otherwise (name ++ '.' :: c :: cs)).or
      ((head? (name ++ '.' :: c :: cs)).bind fun (call, names, rest) =>
        finish? "\x7d\x7d" trims (.otherwiseBlock call names) rest) = none := by
  cases name with
  | nil => rfl
  | cons d name =>
      have hd := Segment.not_reserved_of_isSymbol (hsymbol d List.mem_cons_self)
      have hidentifier := Segment.identifier?_append (List.cons_ne_nil d name) hsymbol
        ('.' :: c :: cs) rfl
      have hskip : skip (d :: name ++ '.' :: c :: cs) = d :: name ++ '.' :: c :: cs :=
        skip_cons hd
      have hfinish : finish? "\x7d\x7d" trims .otherwise (d :: name ++ '.' :: c :: cs) = none :=
        finish?_cons hd trims .otherwise
      rw [hfinish, Option.none_or, head?, hskip, hidentifier, Option.map_some]
      dsimp only
      rw [arguments_dot hc]
      rfl

/-- What follows the keyword is the rest of a name that begins with it. -/
theorem exists_of_append_eq_else {name rest more : List Char}
    (hsymbol : ∀ c ∈ name, isSymbol c = true)
    (h : name ++ '.' :: rest = "else".toList ++ more) :
    ∃ name', (∀ c ∈ name', isSymbol c = true) ∧ more = name' ++ '.' :: rest := by
  rcases List.append_eq_append_iff.mp h with ⟨both, helse, hboth⟩ | ⟨name', rfl, rfl⟩
  · cases both with
    | nil => exact ⟨[], by simp, hboth.symm⟩
    | cons c both =>
        have hdot : '.' ∈ "else".toList := by
          rw [helse, (List.cons.inj hboth).1]
          simp
        exact absurd hdot (by decide)
  · exact ⟨name', fun c hc => hsymbol c (List.mem_append_right _ hc), rfl⟩

end Tags

section Segments

variable {a b : Segment}

theorem expression?_segments (ha : a.Valid) (hb : b.Valid) (tail : List Char)
    (hsymbol : startsSymbol tail = false) (hseparator : separator? tail = none) :
    expression? (segmentsText a b ++ tail) = some (.show (.path (segmentsPath a b)), tail) := by
  obtain ⟨c, more, htext, hc⟩ := ha.head
  obtain ⟨d, other, hother, hd⟩ := hb.head
  have hcs : segmentsText a b ++ tail = a.text ++ '.' :: d :: (other ++ tail) := by
    simp [segmentsText, hother]
  have hhead : segmentsText a b ++ tail = c :: (more ++ '.' :: d :: (other ++ tail)) := by
    rw [hcs, htext, List.cons_append]
  have hsubject : subject? (segmentsText a b ++ tail) =
      some (.path (segmentsPath a b), tail) := by
    rw [subject?.eq_def]
    split
    case h_1 rest heq =>
      rw [hhead] at heq
      cases heq
      exact absurd (by decide) hc
    case h_2 => exact path?_segments ha hb hsymbol hseparator
  have hskip : skip (segmentsText a b ++ tail) = segmentsText a b ++ tail := by
    rw [hhead]
    exact skip_cons hc
  rw [expression?, hskip, hsubject]
  cases a with
  | plain cs =>
      have hidentifier := Segment.identifier?_append ha.1 ha.2.1
        ('.' :: d :: (other ++ tail)) rfl
      rw [hcs]
      simp only [Segment.text, hidentifier, Option.map_some, arguments_dot hd]
      rfl
  | bracketed cs =>
      have hidentifier : identifier? (segmentsText (.bracketed cs) b ++ tail) = none := rfl
      rw [hidentifier]
      rfl

/-- Two segments between braces are read as a reference, even if the first one begins with the
keyword of a second body. -/
theorem tag?_segments (ha : a.Valid) (hb : b.Valid) (rest : List Char) :
    tag? (segmentsText a b ++ '\x7d' :: '\x7d' :: rest) =
      some ⟨.show (.path (segmentsPath a b)), false, false, rest⟩ := by
  obtain ⟨c, more, htext, hc⟩ := ha.head
  obtain ⟨d, other, hother, hd⟩ := hb.head
  have hexpression := expression?_segments ha hb ('\x7d' :: '\x7d' :: rest) rfl rfl
  have hfinish : (expression? (segmentsText a b ++ '\x7d' :: '\x7d' :: rest)).bind
      (fun read => finish? "\x7d\x7d" false read.1 read.2) =
        some ⟨.show (.path (segmentsPath a b)), false, false, rest⟩ := by
    rw [hexpression]
    rfl
  have hcs : segmentsText a b ++ '\x7d' :: '\x7d' :: rest =
      c :: (more ++ '.' :: d :: (other ++ '\x7d' :: '\x7d' :: rest)) := by
    simp [segmentsText, hother, htext]
  have hne : ∀ {d : Char}, d ∈ Segment.reserved → c ≠ d := fun hd heq => hc (heq ▸ hd)
  have helse : ∀ more, after? "else".toList (segmentsText a b ++ '\x7d' :: '\x7d' :: rest) =
      some more → (finish? "\x7d\x7d" false .otherwise more).or ((head? more).bind
        fun (call, names, rest) => finish? "\x7d\x7d" false (.otherwiseBlock call names) rest) =
          none := by
    intro more hmore
    have heq := after?_eq_some hmore
    cases a with
    | plain cs =>
        have hdot : cs ++ '.' :: d :: (other ++ '\x7d' :: '\x7d' :: rest) =
            "else".toList ++ more := by
          rw [← heq, segmentsText, hother]
          simp [Segment.text]
        obtain ⟨name, hname, rfl⟩ := exists_of_append_eq_else ha.2.1 hdot
        exact otherwise_dot hd hname false
    | bracketed cs => cases heq
  rw [hcs] at hfinish helse ⊢
  rw [tag?.eq_def]
  split
  case h_1 heq => exact absurd (List.cons.inj heq).1 (hne (by decide))
  case h_2 heq => exact absurd (List.cons.inj heq).1 (hne (by decide))
  case h_3 =>
    rw [tilde_cons hc]
    dsimp only
    rw [body?, skip_cons hc]
    split
    case h_8 =>
      split
      case h_1 => exact hfinish
      case h_2 more hmore =>
        rw [helse more hmore, Option.none_or]
        exact hfinish
    all_goals
      rename_i heq
      exact absurd (List.cons.inj heq).1 (hne (by decide))

end Segments

/-! ## References -/

theorem isHelper_eq_false_of_dot {cs : List Char} (h : '.' ∈ cs) :
    isHelper (String.ofList cs) = false := by
  have hdotless : ∀ name ∈ blockHelpers ++ valueHelpers, '.' ∉ name.toList := by decide
  rw [isHelper, ← List.contains_append, Bool.eq_false_iff]
  intro hcontains
  refine hdotless _ (List.contains_iff_mem.mp hcontains) ?_
  rwa [String.toList_ofList]

/-- A reference that is written as two segments. -/
def Reference.ofSegments (a b : Segment) (ha : a.Valid) (hb : b.Valid) : Reference where
  text := segmentsText a b
  path := segmentsPath a b
  reads := tag?_segments ha hb
  notHelper := isHelper_eq_false_of_dot (List.mem_append_right _ List.mem_cons_self)
  deep := rfl

end AttributeRelease.Template
