import AttributeRelease.Proofs.Template.Plain
import Mathlib.Data.List.Infix
import Mathlib.Data.List.TakeWhile

/-!
# Templates of texts and references

A template in which references stand between texts is read as just that, if no tag opens within a
text, or together with the tag behind it.  It shows its texts as they are, and what its references
lead to between them.
-/

namespace AttributeRelease

/-! ## Texts with something between them -/

/-- Texts with something between them. -/
inductive Interleaved (α : Type)
  | last (cs : List Char)
  | cut (cs : List Char) (a : α) (rest : Interleaved α)
deriving DecidableEq

namespace Interleaved

variable {α β γ : Type}

def texts : Interleaved α → List (List Char)
  | last cs => [cs]
  | cut cs _ rest => cs :: rest.texts

/-- What stands between the texts. -/
def marks : Interleaved α → List α
  | last _ => []
  | cut _ a rest => a :: rest.marks

def map (f : α → β) : Interleaved α → Interleaved β
  | last cs => last cs
  | cut cs a rest => cut cs (f a) (rest.map f)

/-- The texts and what stands between them, spelt out one after the other. -/
def spell (text : List Char → List β) (mark : α → List β) : Interleaved α → List β
  | last cs => text cs
  | cut cs a rest => text cs ++ mark a ++ rest.spell text mark

/-- Puts a text before the first one. -/
def prepend (cs : List Char) : Interleaved α → Interleaved α
  | last ds => last (cs ++ ds)
  | cut ds a rest => cut (cs ++ ds) a rest

/-- Puts a text on both sides of everything that stands between the texts. -/
def enclosed (q : List Char) : Interleaved α → Interleaved α
  | last cs => last cs
  | cut cs a rest => cut (cs ++ q) a ((rest.enclosed q).prepend q)

theorem spell_prepend (cs : List Char) (mark : α → List Char) (o : Interleaved α) :
    (o.prepend cs).spell id mark = cs ++ o.spell id mark := by
  cases o <;> simp [prepend, spell]

theorem spell_enclosed (q : List Char) (mark : α → List Char) (o : Interleaved α) :
    (o.enclosed q).spell id mark = o.spell id fun a => q ++ mark a ++ q := by
  induction o with
  | last cs => rfl
  | cut cs a rest ih => simp [enclosed, spell, spell_prepend, ih]

theorem marks_prepend (cs : List Char) (o : Interleaved α) : (o.prepend cs).marks = o.marks := by
  cases o <;> rfl

theorem marks_enclosed (q : List Char) (o : Interleaved α) : (o.enclosed q).marks = o.marks := by
  induction o with
  | last cs => rfl
  | cut cs a rest ih => rw [enclosed, marks, marks, marks_prepend, ih]

theorem spell_congr {text : List Char → List β} {mark mark' : α → List β} {o : Interleaved α}
    (h : ∀ a ∈ o.marks, mark a = mark' a) : o.spell text mark = o.spell text mark' := by
  induction o with
  | last cs => rfl
  | cut cs a rest ih =>
      rw [spell, spell, h a List.mem_cons_self, ih fun b hb => h b (List.mem_cons_of_mem a hb)]

theorem texts_ne_nil (o : Interleaved α) : o.texts ≠ [] := by
  cases o <;> exact List.cons_ne_nil _ _

theorem dropLast_texts_cut (cs : List Char) (a : α) (rest : Interleaved α) :
    (cut cs a rest).texts.dropLast = cs :: rest.texts.dropLast :=
  List.dropLast_cons_of_ne_nil rest.texts_ne_nil

/-! ### The first text

A reader takes the first text before it comes to what stands behind it. -/

def first : Interleaved α → List Char
  | last cs => cs
  | cut cs _ _ => cs

/-- What is spelt out behind the first text. -/
def behind (mark : α → List Char) : Interleaved α → List Char
  | last _ => []
  | cut _ a rest => mark a ++ rest.spell id mark

theorem spell_eq_first_append (mark : α → List Char) (o : Interleaved α) :
    o.spell id mark = o.first ++ o.behind mark := by
  cases o with
  | last cs => exact (List.append_nil cs).symm
  | cut cs a rest => exact List.append_assoc ..

end Interleaved

/-! ## References -/

namespace Template

/-- The braces that open a tag. -/
abbrev braces : List Char := ['\x7b', '\x7b']

/-- A reference to a value that lies two names deep in the data, such as a field of the request or
an item of a list. -/
structure Reference where
  /-- What stands between the braces. -/
  text : List Char
  path : Path
  reads : ∀ rest, tag? (text ++ '\x7d' :: '\x7d' :: rest) =
    some ⟨.show (.path path), false, false, rest⟩
  /-- The name of a helper stands for the helper. -/
  notHelper : isHelper path.raw = false
  deep : path.names.length = 2

/-- A reference between its braces. -/
def Reference.tag (ref : Reference) : List Char :=
  braces ++ ref.text ++ ['\x7d', '\x7d']

/-- A template of texts and references. -/
abbrev Outline := Interleaved Reference

namespace Outline

/-- The text of the template. -/
def text (o : Outline) : List Char := o.spell id Reference.tag

/-- No tag opens within a text, and the tag behind it is not changed by it: it does not end in a
brace or in a backslash. -/
inductive Plain : Outline → Prop
  | last {cs : List Char} (closed : ¬ braces <:+: cs) : Plain (.last cs)
  | cut {cs : List Char} {ref : Reference} {rest : Outline} (closed : ¬ braces <:+: cs)
      (brace : cs.getLast? ≠ some '\x7b') (backslash : cs.getLast? ≠ some '\\')
      (rest_plain : Plain rest) : Plain (.cut cs ref rest)

theorem plain_of_texts {o : Outline} (closed : ∀ cs ∈ o.texts, ¬ braces <:+: cs)
    (last : ∀ cs ∈ o.texts.dropLast, cs.getLast? ≠ some '\x7b' ∧ cs.getLast? ≠ some '\\') :
    Plain o := by
  induction o with
  | last cs => exact .last (closed cs List.mem_cons_self)
  | cut cs ref rest ih =>
      rw [Interleaved.dropLast_texts_cut] at last
      obtain ⟨brace, backslash⟩ := last cs List.mem_cons_self
      exact .cut (closed cs List.mem_cons_self) brace backslash
        (ih (fun ds hds => closed ds (List.mem_cons_of_mem cs hds))
          fun ds hds => last ds (List.mem_cons_of_mem cs hds))

variable {c : Char}

theorem not_infix_cons {cs : List Char} (hbrace : c ≠ '\x7b') (h : ¬ braces <:+: cs) :
    ¬ braces <:+: c :: cs := by
  rw [List.infix_cons_iff]
  rintro (hfront | hinside)
  · exact hbrace (List.cons_prefix_cons.mp hfront).1.symm
  · exact h hinside

theorem not_infix_concat {cs : List Char} (hbrace : c ≠ '\x7b') (h : ¬ braces <:+: cs) :
    ¬ braces <:+: cs ++ [c] := by
  rw [← List.reverse_infix, List.reverse_append]
  refine not_infix_cons hbrace fun hinside => h ?_
  rw [← List.reverse_infix]
  exact hinside

theorem Plain.prepend {o : Outline} (h : o.Plain) (hbrace : c ≠ '\x7b') (hbackslash : c ≠ '\\') :
    Plain (Interleaved.prepend [c] o) := by
  cases h with
  | last closed => exact .last (not_infix_cons hbrace closed)
  | @cut cs ref rest closed brace backslash rest_plain =>
      have hlast : ∀ d, c ≠ d → cs.getLast? ≠ some d → (c :: cs).getLast? ≠ some d := by
        intro d hd hcs
        cases cs with
        | nil => simpa using hd
        | cons x xs => rwa [List.getLast?_cons_cons]
      exact .cut (not_infix_cons hbrace closed) (hlast _ hbrace brace)
        (hlast _ hbackslash backslash) rest_plain

/-- Where another character stands between texts and references, only the texts matter. -/
theorem plain_enclosed {o : Outline} (hbrace : c ≠ '\x7b') (hbackslash : c ≠ '\\')
    (h : ∀ cs ∈ o.texts, ¬ braces <:+: cs) : Plain (Interleaved.enclosed [c] o) := by
  induction o with
  | last cs => exact .last (h cs List.mem_cons_self)
  | cut cs ref rest ih =>
      have hrest : Plain (Interleaved.enclosed [c] rest) :=
        ih fun ds hds => h ds (List.mem_cons_of_mem cs hds)
      refine .cut (not_infix_concat hbrace (h cs List.mem_cons_self)) ?_ ?_
        (hrest.prepend hbrace hbackslash)
      · rw [List.getLast?_concat]
        exact fun heq => hbrace (Option.some.inj heq)
      · rw [List.getLast?_concat]
        exact fun heq => hbackslash (Option.some.inj heq)

/-- The elements of the template; texts without characters are none. -/
def elements (o : Outline) : List Element :=
  o.spell (fun cs => addText cs []) fun ref => [.show (.path ref.path)]

end Outline

/-! ## Cutting -/

theorem isSome_after? (expected cs : List Char) :
    (after? expected cs).isSome = true ↔ expected <+: cs := by
  induction expected generalizing cs with
  | nil => simp [after?]
  | cons c expected ih =>
      cases cs with
      | nil => simp [after?]
      | cons d cs =>
          rw [after?, List.cons_prefix_cons]
          by_cases h : c = d
          · rw [if_pos h, ih]
            simp [h]
          · simp [h]

theorem after?_eq_some {expected cs rest : List Char} (h : after? expected cs = some rest) :
    cs = expected ++ rest := by
  induction expected generalizing cs with
  | nil => exact Option.some.inj h
  | cons c expected ih =>
      cases cs with
      | nil => cases h
      | cons d cs =>
          rw [after?] at h
          split at h
          case isTrue hc => rw [hc, ih h, List.cons_append]
          case isFalse => cases h

/-- No tag opens within a text or at its end, in front of something. -/
structure Closed (cs rest : List Char) : Prop where
  braces : ¬ braces <:+: cs
  last : rest ≠ [] → cs.getLast? ≠ some '\x7b' ∧ cs.getLast? ≠ some '\\'

theorem Closed.tail {c : Char} {cs rest : List Char} (h : Closed (c :: cs) rest) :
    Closed cs rest where
  braces hinside := h.braces (List.infix_cons hinside)
  last hrest := by
    cases cs with
    | nil => simp
    | cons d ds =>
        rw [← List.getLast?_cons_cons (a := c)]
        exact h.last hrest

theorem Closed.not_prefix {cs rest : List Char} (h : Closed cs rest) {u : List Char}
    (hne : u ≠ []) (hback : u <:+ cs) : ¬ Template.braces <+: u ++ rest := by
  intro hfront
  match u, hne with
  | [x], _ =>
      obtain ⟨hx, hrest⟩ := List.cons_prefix_cons.mp hfront
      have hne : rest ≠ [] := fun hnil => by
        rw [hnil] at hrest
        simp at hrest
      obtain ⟨before, rfl⟩ := hback
      refine (h.last hne).1 ?_
      rw [List.getLast?_concat, ← hx]
  | x :: y :: more, _ =>
      refine h.braces (List.IsInfix.trans ?_ hback.isInfix)
      obtain ⟨hx, hy⟩ := List.cons_prefix_cons.mp hfront
      obtain ⟨hy, -⟩ := List.cons_prefix_cons.mp hy
      rw [← hx, ← hy]
      exact (List.prefix_append ['\x7b', '\x7b'] more).isInfix

/-- Behind the backslashes at the front of a text no tag opens. -/
theorem Closed.not_prefix_dropWhile {cs rest : List Char} (h : Closed cs rest) (hne : cs ≠ []) :
    ¬ Template.braces <+: (cs ++ rest).dropWhile (· == '\\') := by
  rw [List.dropWhile_append]
  split
  case isTrue hempty =>
    have hall : ∀ c ∈ cs, (c == '\\') = true := by
      rw [List.isEmpty_iff] at hempty
      exact List.dropWhile_eq_nil_iff.mp hempty
    have hrest : rest = [] := by
      by_contra hrest
      refine (h.last hrest).2 ?_
      rw [List.getLast?_eq_some_getLast hne]
      exact congrArg some (eq_of_beq (hall _ (List.getLast_mem hne)))
    subst hrest
    simp
  case isFalse hempty =>
    refine h.not_prefix ?_ (List.dropWhile_suffix _)
    simpa using hempty

theorem drop_length_takeWhile (p : Char → Bool) (cs : List Char) :
    cs.drop (cs.takeWhile p).length = cs.dropWhile p := by
  have h : (cs.takeWhile p ++ cs.dropWhile p).drop (cs.takeWhile p).length = cs.dropWhile p :=
    List.drop_left
  rwa [List.takeWhile_append_dropWhile] at h

/-- A text in which no tag opens is taken as it is.  The induction is on the text. -/
theorem cutText_closed {cs rest : List Char} {room : Nat} (h : Closed cs rest)
    (hrest : rest = [] ∨ braces <+: rest) (hroom : cs.length ≤ room) :
    cutText braces room (cs ++ rest) = ⟨cs, cs, rest⟩ := by
  induction cs generalizing room with
  | nil =>
      cases room with
      | zero => rfl
      | succ room =>
          rcases hrest with rfl | ⟨more, rfl⟩
          · rfl
          · simp [cutText, after?]
  | cons c cs ih =>
      obtain ⟨room, rfl⟩ := Nat.exists_eq_add_one_of_ne_zero (Nat.ne_of_gt
        (Nat.lt_of_lt_of_le (Nat.succ_pos _) hroom))
      have hmore := ih h.tail (Nat.le_of_succ_le_succ hroom)
      -- Backslashes count only in front of braces, and there are none behind them.
      have hslashes : (after? ['\x7b', '\x7b'] ((c :: (cs ++ rest)).drop
          ((c :: (cs ++ rest)).takeWhile (· == '\\')).length)).isSome = false := by
        rw [Bool.eq_false_iff, ne_eq, isSome_after?, drop_length_takeWhile]
        exact h.not_prefix_dropWhile (List.cons_ne_nil _ _)
      have hmark : (after? braces (c :: (cs ++ rest))).isSome = false := by
        rw [Bool.eq_false_iff, ne_eq, isSome_after?]
        exact h.not_prefix (List.cons_ne_nil _ _) (List.suffix_refl _)
      rw [List.cons_append, cutText]
      simp only [hslashes, hmark, Bool.and_false, Bool.false_eq_true, if_false, hmore]

/-! ## Reading -/

namespace Outline

theorem Plain.first_closed {o : Outline} (h : o.Plain) :
    Closed o.first (o.behind Reference.tag) := by
  cases h with
  | last closed => exact ⟨closed, fun hne => absurd rfl hne⟩
  | cut closed brace backslash => exact ⟨closed, fun _ => ⟨brace, backslash⟩⟩

theorem behind_eq_nil_or (o : Outline) :
    o.behind Reference.tag = [] ∨ braces <+: o.behind Reference.tag := by
  cases o with
  | last cs => exact .inl rfl
  | cut cs ref rest =>
      refine .inr ⟨ref.text ++ ['\x7d', '\x7d'] ++ text rest, ?_⟩
      simp [Interleaved.behind, Reference.tag, text]

theorem Plain.cutText_text {o : Outline} (h : o.Plain) {room : Nat}
    (hroom : o.text.length ≤ room) :
    cutText braces room o.text = ⟨o.first, o.first, o.behind Reference.tag⟩ := by
  rw [text, Interleaved.spell_eq_first_append] at hroom ⊢
  rw [List.length_append] at hroom
  exact cutText_closed h.first_closed o.behind_eq_nil_or (by omega)

/-- The tags of the template with the texts behind them. -/
def pieces : Outline → List Piece
  | .last _ => []
  | .cut _ ref rest =>
    ⟨.show (.path ref.path), false, false, rest.first, rest.first⟩ :: pieces rest

/-- There is room for all tags, as each has more characters than the room that it takes. -/
theorem Plain.pieces?_behind {o : Outline} (h : o.Plain) {room : Nat}
    (hroom : (o.behind Reference.tag).length < room) :
    pieces? room (o.behind Reference.tag) = some o.pieces := by
  induction h generalizing room with
  | last closed =>
      obtain ⟨room, rfl⟩ := Nat.exists_eq_add_one_of_ne_zero (Nat.ne_of_gt hroom)
      rfl
  | @cut cs ref rest closed brace backslash rest_plain ih =>
      obtain ⟨room, rfl⟩ := Nat.exists_eq_add_one_of_ne_zero (Nat.ne_of_gt
        (Nat.lt_of_le_of_lt (Nat.zero_le _) hroom))
      have hbehind : Interleaved.behind Reference.tag (.cut cs ref rest) =
          '\x7b' :: '\x7b' :: (ref.text ++ '\x7d' :: '\x7d' :: rest.text) := by
        simp [Interleaved.behind, Reference.tag, text]
      have hlength : rest.text.length =
          rest.first.length + (rest.behind Reference.tag).length := by
        rw [text, Interleaved.spell_eq_first_append, List.length_append]
      have hmore : pieces? room (rest.behind Reference.tag) = some rest.pieces := by
        refine ih ?_
        rw [hbehind] at hroom
        simp only [List.length_cons, List.length_append] at hroom
        omega
      rw [hbehind, pieces?]
      simp only [after?, if_true, Option.bind_some, ref.reads, rest_plain.cutText_text le_rfl,
        hmore, Option.map_some]
      · rfl
      · exact List.cons_ne_nil _ _

/-- A tag that shows a value leaves the texts around it as they are, and opens no block. -/
theorem nest?_layout {o : Outline} (atStart : Bool) (before : List Element) :
    nest? [] before (layout atStart false o.first o.first o.pieces) =
      some (before.reverse ++ o.elements) := by
  induction o generalizing atStart before with
  | last cs =>
      rw [pieces, layout, nest?, nest?]
      cases cs <;> simp [Interleaved.first, elements, Interleaved.spell, addText]
  | cut cs ref rest ih =>
      rw [pieces, layout]
      simp only [standsAlone, Tag.isSilent, Bool.false_and, trimBefore, trimAfter, nest?, ih,
        Bool.false_eq_true, if_false]
      cases cs <;> simp [Interleaved.first, elements, Interleaved.spell, addText]

/-- The template is read as its texts and references. -/
theorem Plain.ofText?_text {o : Outline} (h : o.Plain) :
    ofText? (String.ofList o.text) = some o.elements := by
  rw [ofText?, String.toList_ofList, parts?, h.cutText_text le_rfl]
  simp only [h.pieces?_behind (Nat.lt_succ_self _), Option.map_some, Option.bind_some]
  exact nest?_layout true []

end Outline

/-! ## Showing -/

/-- What a reference leads to in the data. -/
def Reference.value? (ref : Reference) (data : Json) : Option Json :=
  (Scope.follow data ref.path.names).toOption.join

/-- Outside all blocks every path starts at the whole data. -/
theorem Scope.value_start (data : Json) (p : Path) :
    (Scope.start data).value p = Scope.follow data p.names := by
  have hfocus : (Scope.start data).focus p.ups = data := by
    rw [focus, start]
    cases p.ups <;> rfl
  rw [value, hfocus]
  split
  · rfl
  · cases p.names <;> rfl

theorem Reference.value?_of_showValue {ref : Reference} {data : Json} {d d' : Definitions}
    {text : List Char}
    (h : showValue (.start data) (.path ref.path) d = .ok (text, d')) :
    d' = d ∧ ∃ j, ref.value? data = some j ∧ text = j.shown := by
  have hhelper : isHelper (Param.path ref.path).label = false := ref.notHelper
  rw [showValue, hhelper] at h
  simp only [Bool.false_eq_true, if_false, Param.value, Scope.value_start] at h
  rw [value?]
  rcases hfollow : Scope.follow data ref.path.names with e | _ | j
  · rw [hfollow] at h
    cases h
  · rw [hfollow] at h
    cases h
  · rw [hfollow] at h
    cases h
    exact ⟨rfl, j, rfl, rfl⟩

namespace Outline

variable {known : Definitions} {include' : Include} {current : Option String}

theorem showAll_addText (cs : List Char) (rest : List Element) (s : Scope) (d : Definitions) :
    showAll known include' current s (addText cs [] ++ rest) d =
      (showAll known include' current s rest d).map fun (text, d) => (cs ++ text, d) := by
  rw [addText]
  cases cs with
  | nil =>
      rw [List.isEmpty_nil, if_pos rfl, List.nil_append]
      rcases showAll known include' current s rest d with e | ⟨text, d⟩ <;> rfl
  | cons c cs =>
      rw [List.isEmpty_cons, if_neg Bool.false_ne_true, List.singleton_append, showAll, showOne]
      rcases hrest : showAll known include' current s rest d with e | ⟨text, d⟩ <;>
        simp [bind, Except.bind, hrest, Except.map, pure, Except.pure]

/-- Where all of a template can be shown, each reference leads to something, and this stands in its
place. -/
theorem value?_of_showAll {o : Outline} {data : Json} {d d' : Definitions} {text : List Char}
    (h : showAll known include' current (.start data) o.elements d = .ok (text, d')) :
    (∀ ref ∈ o.marks, ∃ j, ref.value? data = some j) ∧
      text = o.spell id fun ref => ((ref.value? data).map Json.shown).getD [] := by
  induction o generalizing d d' text with
  | last cs =>
      rw [elements, Interleaved.spell, ← List.append_nil (addText cs []), showAll_addText,
        showAll] at h
      cases h
      exact ⟨fun ref href => absurd href List.not_mem_nil, List.append_nil cs⟩
  | cut cs ref rest ih =>
      rw [elements, Interleaved.spell, List.append_assoc, showAll_addText, List.singleton_append,
        showAll, showOne] at h
      rcases hvalue : showValue (.start data) (.path ref.path) d with e | ⟨shown, d₁⟩
      · rw [hvalue] at h
        cases h
      rcases hrest : showAll known include' current (.start data) (elements rest) d₁ with
        e | ⟨more, d₂⟩
      · simp only [hvalue, bind, Except.bind] at h
        rw [← elements, hrest] at h
        cases h
      · simp only [hvalue, bind, Except.bind] at h
        rw [← elements, hrest] at h
        cases h
        obtain ⟨rfl, j, hj, rfl⟩ := ref.value?_of_showValue hvalue
        obtain ⟨hvalues, rfl⟩ := ih hrest
        refine ⟨?_, ?_⟩
        · intro other hother
          rcases List.mem_cons.mp hother with rfl | hother
          · exact ⟨j, hj⟩
          · exact hvalues other hother
        · simp [Interleaved.spell, hj]

end Outline

end Template

/-- What a registered template of texts and references shows. -/
theorem Templates.toList_of_render {t : Templates} {name : String} {o : Template.Outline}
    (hplain : o.Plain) (hregistered : t.elements? name = Template.ofText? (String.ofList o.text))
    {data : Json} {s : String} (h : t.render name data = .ok s) :
    (∀ ref ∈ o.marks, ∃ j, ref.value? data = some j) ∧
      s.toList = o.spell id fun ref => ((ref.value? data).map Json.shown).getD [] := by
  rw [hplain.ofText?_text, elements?] at hregistered
  rw [render, hregistered] at h
  dsimp only at h
  rw [Template.render, Template.maxDepth, Template.showWithin] at h
  beta_reduce at h
  rcases hshow : Template.showAll t.known (Template.showWithin t.known 999) (some name)
    (.start data) o.elements [] with e | ⟨text, d⟩
  · rw [hshow] at h
    cases h
  · rw [hshow] at h
    cases h
    rw [String.toList_ofList]
    exact Template.Outline.value?_of_showAll hshow

end AttributeRelease
