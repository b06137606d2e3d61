import AttributeRelease.Proofs.Statement.Data

/-!
# Literals in SQL statements

A template may have its references between single quotes.  Its statements then have literals in
their place, and each is read as the text that the reference leads to, whatever quotes there are in
it.
-/

namespace AttributeRelease.Sql

open Template (Reference Outline)

variable {α : Type}

/-! ## Reading SQL -/

mutual

/-- SQL outside literals.  A quote opens a literal. -/
def code? : List Char → Option (Interleaved (List Char))
  | [] => some (.last [])
  | c :: rest =>
    if c = '\'' then (literal? rest).map fun (literal, more) => .cut [] literal more
    else (code? rest).map (.prepend [c])

/-- SQL within a literal.  Two quotes stand for one, and a single one closes the literal; one that
is not closed is no literal. -/
def literal? : List Char → Option (List Char × Interleaved (List Char))
  | [] => none
  | '\'' :: '\'' :: rest => (literal? rest).map fun (literal, more) => ('\'' :: literal, more)
  | '\'' :: rest => (code? rest).map fun more => ([], more)
  | c :: rest => (literal? rest).map fun (literal, more) => (c :: literal, more)

end

theorem code?_append {cs : List Char} (h : '\'' ∉ cs) (rest : List Char) :
    code? (cs ++ '\'' :: rest) =
      (literal? rest).map fun (literal, more) => .cut cs literal more := by
  induction cs with
  | nil => rw [List.nil_append, code?, if_pos rfl]
  | cons c cs ih =>
      have hc : c ≠ '\'' := fun hc => h (hc ▸ List.mem_cons_self)
      rw [List.cons_append, code?, if_neg hc, ih fun hmem => h (List.mem_cons_of_mem c hmem),
        Option.map_map]
      rfl

theorem code?_of_not_mem {cs : List Char} (h : '\'' ∉ cs) : code? cs = some (.last cs) := by
  induction cs with
  | nil => rw [code?]
  | cons c cs ih =>
      have hc : c ≠ '\'' := fun hc => h (hc ▸ List.mem_cons_self)
      rw [code?, if_neg hc, ih fun hmem => h (List.mem_cons_of_mem c hmem)]
      rfl

/-- A text that is escaped is read up to the quote behind it, unless another one follows. -/
theorem literal?_chars (cs : List Char) {rest : List Char} (h : rest.head? ≠ some '\'') :
    literal? (Escaping.sql.chars cs ++ '\'' :: rest) = (code? rest).map fun more => (cs, more) := by
  induction cs with
  | nil =>
      change literal? ('\'' :: rest) = _
      rw [literal?]
      rintro more rfl
      exact h rfl
  | cons c cs ih =>
      change literal? (Escaping.sqlChar c ++ Escaping.sql.chars cs ++ '\'' :: rest) = _
      rw [Escaping.sqlChar]
      split
      case isTrue hc =>
        subst hc
        change literal? ('\'' :: '\'' :: (Escaping.sql.chars cs ++ '\'' :: rest)) = _
        rw [literal?, ih, Option.map_map]
        rfl
      case isFalse hc =>
        change literal? (c :: (Escaping.sql.chars cs ++ '\'' :: rest)) = _
        rw [literal?, ih, Option.map_map]
        · rfl
        · rintro _ rfl
          exact absurd rfl hc
        · rintro rfl
          exact absurd rfl hc

/-- A text between quotes. -/
abbrev quoted (cs : List Char) : List Char := ['\''] ++ cs ++ ['\'']

theorem head?_spell_ne (mark : α → List Char) {o : Interleaved α}
    (hquotes : ∀ cs ∈ o.texts, '\'' ∉ cs) (hne : ∀ cs ∈ o.texts.dropLast, cs ≠ []) :
    (o.spell id mark).head? ≠ some '\'' := by
  cases o with
  | last cs =>
      intro hhead
      exact hquotes cs List.mem_cons_self (List.mem_of_head? hhead)
  | cut cs a rest =>
      rw [Interleaved.dropLast_texts_cut] at hne
      obtain ⟨c, cs, rfl⟩ := List.exists_cons_of_ne_nil (hne cs List.mem_cons_self)
      intro hhead
      have hc : c = '\'' := Option.some.inj hhead
      exact hquotes _ List.mem_cons_self (hc ▸ List.mem_cons_self)

/-- What stands between quotes, escaped, is read as it is, and so are the texts around it, if those
between two literals keep them apart. -/
theorem code?_spell (value : α → List Char) {o : Interleaved α}
    (hquotes : ∀ cs ∈ o.texts, '\'' ∉ cs) (hapart : ∀ cs ∈ o.texts.dropLast.tail, cs ≠ []) :
    code? (o.spell id fun a => quoted (Escaping.sql.chars (value a))) = some (o.map value) := by
  induction o with
  | last cs => exact code?_of_not_mem (hquotes cs List.mem_cons_self)
  | cut cs a rest ih =>
      rw [Interleaved.dropLast_texts_cut, List.tail_cons] at hapart
      have hrest := ih (fun ds hds => hquotes ds (List.mem_cons_of_mem cs hds))
        fun ds hds => hapart ds (List.mem_of_mem_tail hds)
      have hhead := head?_spell_ne (fun a => quoted (Escaping.sql.chars (value a)))
        (fun ds hds => hquotes ds (List.mem_cons_of_mem cs hds)) hapart
      -- The quote behind the literal is a single one, because of what stands behind it.
      have hspell : Interleaved.spell id (fun a => quoted (Escaping.sql.chars (value a)))
          (.cut cs a rest) = cs ++ '\'' :: (Escaping.sql.chars (value a) ++ '\'' ::
            rest.spell id fun a => quoted (Escaping.sql.chars (value a))) := by
        simp [Interleaved.spell]
      rw [hspell, code?_append (hquotes cs List.mem_cons_self), literal?_chars _ hhead, hrest]
      rfl

/-! ## Statements -/

/-- A statement that a template of texts and references between single quotes gives is read as the
code pieces of the template, with the texts that the references lead to as the literals between
them.  The pieces have no quotes and no template syntax, and those between two references are not
empty, as two quotes would stand for one. -/
theorem statement_reads {t : Templates} {name : String} {o : Outline}
    (hquotes : ∀ cs ∈ o.texts, '\'' ∉ cs) (hclosed : ∀ cs ∈ o.texts, ¬ Template.braces <:+: cs)
    (hapart : ∀ cs ∈ o.texts.dropLast.tail, cs ≠ [])
    (hregistered : t.elements? name =
      Template.ofText? (String.ofList (o.spell id fun ref => quoted ref.tag)))
    {r : Request} {m : Memo} {dependencies : List String} {s : String}
    (h : t.statement name .sql r m dependencies = .ok s) :
    ∃ value : Reference → String,
      (∀ ref ∈ o.marks, Statement.textAt? r m dependencies ref.path.names = some (value ref)) ∧
        code? s.toList = some (o.map fun ref => (value ref).toList) := by
  have hplain : Outline.Plain (o.enclosed ['\'']) :=
    Template.Outline.plain_enclosed (by decide) (by decide) hclosed
  rw [← Interleaved.spell_enclosed] at hregistered
  obtain ⟨value, hvalue, hlist⟩ := Templates.toList_of_statement hplain hregistered h
  rw [Interleaved.marks_enclosed] at hvalue
  rw [Interleaved.spell_enclosed] at hlist
  refine ⟨value, hvalue, ?_⟩
  rw [hlist]
  exact code?_spell (fun ref => (value ref).toList) hquotes hapart

/-! ## A query for groups -/

def secondUnit : Reference :=
  .ofSegments (.bracketed "urn:unit".toList) (.bracketed "1".toList)
    ⟨by decide, by decide⟩ ⟨by decide, by decide⟩

def groups : Outline :=
  .cut "SELECT * FROM groups WHERE uid = ".toList Statement.principalName
    (.cut " AND unit <> ".toList secondUnit (.last []))

/-- The templates with the query. -/
def queries : Templates :=
  ⟨[("groups", Template.Outline.elements (groups.enclosed ['\'']))]⟩

/-- A request for a principal with a quote in its name. -/
def obrien : Request := { principalName := some "o'brien" }

/-- The second unit begins and ends in quotes. -/
def units : Memo :=
  ⟨[("units", .definition
    { id := "urn:unit", values := [.string "staff", .string "'; DROP TABLE groups; --''"] })]⟩

def groupsStatement : String :=
  "SELECT * FROM groups WHERE uid = 'o''brien' AND unit <> '''; DROP TABLE groups; --'''''"

example : String.ofList (groups.spell id fun ref => quoted ref.tag) =
    "SELECT * FROM groups WHERE uid = '\x7b\x7brequestContext.principalName\x7d\x7d' " ++
      "AND unit <> '\x7b\x7b[urn:unit].[1]\x7d\x7d'" := by
  decide +kernel

theorem groups_registered : queries.elements? "groups" =
    Template.ofText? (String.ofList (groups.spell id fun ref => quoted ref.tag)) := by
  have hplain : Outline.Plain (groups.enclosed ['\'']) :=
    Template.Outline.plain_enclosed (by decide) (by decide) (by decide +kernel)
  rw [← Interleaved.spell_enclosed]
  exact hplain.ofText?_text.symm

theorem statement_reads_groups :
    (∀ cs ∈ groups.texts, '\'' ∉ cs) ∧ (∀ cs ∈ groups.texts, ¬ Template.braces <:+: cs) ∧
    (∀ cs ∈ groups.texts.dropLast.tail, cs ≠ []) ∧
    queries.elements? "groups" =
      Template.ofText? (String.ofList (groups.spell id fun ref => quoted ref.tag)) ∧
    queries.statement "groups" .sql obrien units ["units"] = .ok groupsStatement ∧
    code? groupsStatement.toList =
      some (.cut "SELECT * FROM groups WHERE uid = ".toList "o'brien".toList
        (.cut " AND unit <> ".toList "'; DROP TABLE groups; --''".toList (.last []))) := by
  have hquotes : ∀ cs ∈ groups.texts, '\'' ∉ cs := by decide +kernel
  have hclosed : ∀ cs ∈ groups.texts, ¬ Template.braces <:+: cs := by decide +kernel
  have hapart : ∀ cs ∈ groups.texts.dropLast.tail, cs ≠ [] := by decide +kernel
  have hstatement : queries.statement "groups" .sql obrien units ["units"] =
      .ok groupsStatement := rfl
  obtain ⟨value, hvalue, hread⟩ :=
    statement_reads hquotes hclosed hapart groups_registered hstatement
  have hname : value Statement.principalName = "o'brien" :=
    Option.some.inj (hvalue Statement.principalName List.mem_cons_self).symm
  have hunit : value secondUnit = "'; DROP TABLE groups; --''" :=
    Option.some.inj (hvalue _ (List.mem_cons_of_mem _ List.mem_cons_self)).symm
  refine ⟨hquotes, hclosed, hapart, groups_registered, hstatement, ?_⟩
  rw [hread]
  simp only [groups, Interleaved.map, hname, hunit]

end AttributeRelease.Sql
