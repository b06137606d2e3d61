import AttributeRelease.Proofs.Statement.Data

/-!
# Structure of directory filters

A filter is read from left to right, and a backslash makes the next character literal.  So a filter
that comes of a template has the structure of the template, and whatever is written in the place of
a reference is read as the text that the reference leads to.
-/

namespace AttributeRelease.DirectoryFilter

open Template (Reference Outline)

variable {α : Type}

/-! ## Reading filters -/

/-- A character of a filter, as it is read. -/
inductive Mark
  /-- It belongs to the structure of the filter. -/
  | structural (c : Char)
  | literal (c : Char)
deriving DecidableEq

/-- Whether a character belongs to the structure, where no backslash stands before it. -/
def isStructural (c : Char) : Bool := c == '(' || c == ')' || c == '*'

namespace Mark

/-- A character without a backslash before it. -/
def ofChar (c : Char) : Mark := if isStructural c then structural c else literal c

def char : Mark → Char
  | structural c => c
  | literal c => c

def structural? : Mark → Option Char
  | structural c => some c
  | literal _ => none

end Mark

/-- Reads a filter.  No filter ends in a backslash that makes nothing literal. -/
def marks? : List Char → Option (List Mark)
  | [] => some []
  | ['\\'] => none
  | '\\' :: c :: rest => (marks? rest).map (.literal c :: ·)
  | c :: rest => (marks? rest).map (.ofChar c :: ·)

/-- The text that is written in a filter, if it is read. -/
def unescape? (s : String) : Option String :=
  (marks? s.toList).map fun marks => String.ofList (marks.map Mark.char)

theorem marks?_cons {c : Char} (h : c ≠ '\\') (rest : List Char) :
    marks? (c :: rest) = (marks? rest).map (.ofChar c :: ·) := by
  rw [marks?]
  · rintro rfl
    exact absurd rfl h
  · rintro _ _ rfl
    exact absurd rfl h

theorem marks?_append {cs : List Char} (h : '\\' ∉ cs) (rest : List Char) :
    marks? (cs ++ rest) = (marks? rest).map (cs.map .ofChar ++ ·) := by
  induction cs with
  | nil => exact Option.map_id'.symm
  | cons c cs ih =>
      have hc : c ≠ '\\' := fun hc => h (hc ▸ List.mem_cons_self)
      rw [List.cons_append, marks?_cons hc, ih fun hmem => h (List.mem_cons_of_mem c hmem),
        Option.map_map]
      rfl

theorem marks?_filterChar_append (c : Char) (rest : List Char) :
    marks? (Escaping.filterChar c ++ rest) = (marks? rest).map (.literal c :: ·) := by
  rw [Escaping.filterChar]
  split
  case isTrue => rw [List.cons_append, List.singleton_append, marks?]
  case isFalse hc =>
    simp only [not_or] at hc
    have hplain : isStructural c = false := by
      simp [isStructural, hc]
    rw [List.singleton_append, marks?_cons hc.1, Mark.ofChar, hplain]
    rfl

/-- A text that is escaped is read as it is, whatever stands behind it. -/
theorem marks?_chars_append (cs rest : List Char) :
    marks? (Escaping.filter.chars cs ++ rest) = (marks? rest).map (cs.map .literal ++ ·) := by
  induction cs with
  | nil => exact Option.map_id'.symm
  | cons c cs ih =>
      change marks? (Escaping.filterChar c ++ Escaping.filter.chars cs ++ rest) = _
      rw [List.append_assoc, marks?_filterChar_append, ih, Option.map_map]
      rfl

theorem marks?_spell (value : α → List Char) {o : Interleaved α}
    (h : ∀ cs ∈ o.texts, '\\' ∉ cs) :
    marks? (o.spell id fun a => Escaping.filter.chars (value a)) =
      some (o.spell (·.map .ofChar) fun a => (value a).map .literal) := by
  induction o with
  | last cs =>
      have hread := marks?_append (h cs List.mem_cons_self) []
      rw [List.append_nil] at hread
      rw [Interleaved.spell, Interleaved.spell, id, hread, marks?, Option.map_some,
        List.append_nil]
  | cut cs a rest ih =>
      rw [Interleaved.spell, Interleaved.spell, id, List.append_assoc,
        marks?_append (h cs List.mem_cons_self), marks?_chars_append,
        ih fun ds hds => h ds (List.mem_cons_of_mem cs hds), Option.map_some, Option.map_some,
        List.append_assoc]

theorem unescape?_apply (v : String) : unescape? (Escaping.filter.apply v) = some v := by
  have hread := marks?_chars_append v.toList []
  rw [List.append_nil, marks?, Option.map_some, List.append_nil] at hread
  have hchars : (v.toList.map Mark.literal).map Mark.char = v.toList := by
    rw [List.map_map]
    exact List.map_id _
  rw [unescape?, Escaping.apply, String.toList_ofList, hread, Option.map_some, hchars,
    String.ofList_toList]

theorem apply_injective : Function.Injective Escaping.filter.apply := by
  intro v w h
  have hread := unescape?_apply v
  rw [h, unescape?_apply] at hread
  exact (Option.some.inj hread).symm

/-! ## Structure -/

theorem filterMap_structural?_ofChar (cs : List Char) :
    (cs.map Mark.ofChar).filterMap Mark.structural? = cs.filter isStructural := by
  induction cs with
  | nil => rfl
  | cons c cs ih =>
      rw [List.map_cons, List.filterMap_cons, Mark.ofChar, List.filter_cons, ih]
      cases isStructural c <;> rfl

/-- Literal characters add nothing to the structure of the texts around them. -/
theorem filterMap_structural?_spell (value : α → List Char) (o : Interleaved α) :
    (o.spell (·.map Mark.ofChar) fun a => (value a).map .literal).filterMap Mark.structural? =
      o.texts.flatten.filter isStructural := by
  induction o with
  | last cs =>
      rw [Interleaved.spell, filterMap_structural?_ofChar, Interleaved.texts,
        List.flatten_singleton]
  | cut cs a rest ih =>
      have hliteral : ((value a).map Mark.literal).filterMap Mark.structural? = [] := by
        rw [List.filterMap_map, List.filterMap_eq_nil_iff]
        exact fun c hc => rfl
      rw [Interleaved.spell, List.filterMap_append, List.filterMap_append, hliteral, ih,
        filterMap_structural?_ofChar, Interleaved.texts, List.flatten_cons, List.filter_append,
        List.append_nil]

/-! ## Statements -/

/-- A filter that a template of texts and references gives is read as the texts of the template,
with all of the texts that the references lead to as literal characters between them: its structure
is that of the template.  The texts have no backslashes and no template syntax, and none of them
makes three braces of the two that open a reference.  Every text can be got back from what is
written for it. -/
theorem structure_eq_of_statement :
    (∀ v, unescape? (Escaping.filter.apply v) = some v) ∧
    Function.Injective Escaping.filter.apply ∧
    ∀ {t : Templates} {name : String} {o : Outline} {r : Request} {m : Memo}
      {dependencies : List String} {s : String},
      (∀ cs ∈ o.texts, '\\' ∉ cs) → (∀ cs ∈ o.texts, ¬ Template.braces <:+: cs) →
      (∀ cs ∈ o.texts.dropLast, cs.getLast? ≠ some '\x7b') →
      t.elements? name = Template.ofText? (String.ofList (Template.Outline.text o)) →
      t.statement name .filter r m dependencies = .ok s →
      ∃ (value : Reference → String) (marks : List Mark),
        (∀ ref ∈ o.marks,
          Statement.textAt? r m dependencies ref.path.names = some (value ref)) ∧
        marks? s.toList = some marks ∧
        marks = o.spell (·.map .ofChar) (fun ref => (value ref).toList.map .literal) ∧
        marks.filterMap Mark.structural? = o.texts.flatten.filter isStructural := by
  refine ⟨unescape?_apply, apply_injective, ?_⟩
  intro t name o r m dependencies s hbackslash hclosed hbrace hregistered h
  have hplain : Outline.Plain o := by
    refine Template.Outline.plain_of_texts hclosed fun cs hcs => ⟨hbrace cs hcs, fun hlast => ?_⟩
    exact hbackslash cs (List.mem_of_mem_dropLast hcs) (List.mem_of_getLast? hlast)
  obtain ⟨value, hvalue, hlist⟩ := Templates.toList_of_statement hplain hregistered h
  refine ⟨value, _, hvalue, ?_, rfl, ?_⟩
  · rw [hlist]
    exact marks?_spell (fun ref => (value ref).toList) hbackslash
  · exact filterMap_structural?_spell (fun ref => (value ref).toList) o

/-! ## A filter for people -/

def unit : Reference :=
  .ofSegments (.plain "unit".toList) (.bracketed "0".toList)
    ⟨by decide, List.all_eq_true.mp (by decide), by decide⟩ ⟨by decide, by decide⟩

def people : Outline :=
  .cut "(&(uid=".toList Statement.principalName
    (.cut ")(ou=".toList unit (.last "*))".toList))

/-- The templates with the filter. -/
def filters : Templates := ⟨[("people", Template.Outline.elements people)]⟩

/-- A request for a principal that would rather be anyone. -/
def anyone : Request := { principalName := some "*)(uid=\\" }

/-- The unit ends in a backslash. -/
def units : Memo :=
  ⟨[("unit", .definition { id := "unit", values := [.string "(staff\\"] })]⟩

def peopleFilter : String := "(&(uid=\\*\\)\\(uid=\\\\)(ou=\\(staff\\\\*))"

example : String.ofList (Template.Outline.text people) =
    "(&(uid=\x7b\x7brequestContext.principalName\x7d\x7d)(ou=\x7b\x7bunit.[0]\x7d\x7d*))" := by
  decide +kernel

theorem structure_eq_of_statement_people :
    (∀ cs ∈ people.texts, '\\' ∉ cs) ∧ (∀ cs ∈ people.texts, ¬ Template.braces <:+: cs) ∧
    (∀ cs ∈ people.texts.dropLast, cs.getLast? ≠ some '\x7b') ∧
    filters.elements? "people" =
      Template.ofText? (String.ofList (Template.Outline.text people)) ∧
    filters.statement "people" .filter anyone units ["unit"] = .ok peopleFilter ∧
    unescape? (Escaping.filter.apply "*)(uid=\\") = some "*)(uid=\\" ∧
    ∃ marks, marks? peopleFilter.toList = some marks ∧
      marks.filterMap Mark.structural? = "(()(*))".toList ∧
      marks = "(&(uid=".toList.map .ofChar ++ "*)(uid=\\".toList.map .literal ++
        (")(ou=".toList.map .ofChar ++ "(staff\\".toList.map .literal ++
          "*))".toList.map .ofChar) := by
  have hbackslash : ∀ cs ∈ people.texts, '\\' ∉ cs := by decide +kernel
  have hclosed : ∀ cs ∈ people.texts, ¬ Template.braces <:+: cs := by decide +kernel
  have hbrace : ∀ cs ∈ people.texts.dropLast, cs.getLast? ≠ some '\x7b' := by decide +kernel
  have hregistered : filters.elements? "people" =
      Template.ofText? (String.ofList (Template.Outline.text people)) := by
    have hplain : Outline.Plain people :=
      Template.Outline.plain_of_texts hclosed (by decide +kernel)
    exact hplain.ofText?_text.symm
  have hstatement : filters.statement "people" .filter anyone units ["unit"] =
      .ok peopleFilter := rfl
  obtain ⟨hunescape, -, hstructure⟩ := structure_eq_of_statement
  obtain ⟨value, marks, hvalue, hread, hmarks, hstructural⟩ :=
    hstructure hbackslash hclosed hbrace hregistered hstatement
  have hname : value Statement.principalName = "*)(uid=\\" :=
    Option.some.inj (hvalue _ List.mem_cons_self).symm
  have hunit : value unit = "(staff\\" :=
    Option.some.inj (hvalue _ (List.mem_cons_of_mem _ List.mem_cons_self)).symm
  refine ⟨hbackslash, hclosed, hbrace, hregistered, hstatement, hunescape _, marks, hread, ?_, ?_⟩
  · rw [hstructural]
    decide +kernel
  · rw [hmarks]
    simp only [people, Interleaved.spell, hname, hunit]

end AttributeRelease.DirectoryFilter
