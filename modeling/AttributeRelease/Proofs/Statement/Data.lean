import AttributeRelease.Proofs.Resolution.Dependencies
import AttributeRelease.Proofs.Template.Segment
import AttributeRelease.Statement.Connector

/-!
# What statements show

Two names lead from the data of a statement to a field of the request or to a value of an attribute.
A template of texts and references gives a statement only if each reference leads to such a text,
and has it in the place of the reference, escaped.
-/

namespace AttributeRelease

open Template (Reference Outline)

/-! ## Members -/

theorem Json.lookup_members {α : Type} (name other : String) (a : α)
    (members : List (String × α)) :
    ((name, a) :: members).lookup other =
      if other = name then some a else members.lookup other := by
  rw [List.lookup_cons]
  by_cases h : other = name
  · rw [if_pos h, beq_iff_eq.mpr h]
  · rw [if_neg h, beq_eq_false_iff_ne.mpr h]

theorem Json.lookup_putMember (name other : String) (j : Json) (members : List (String × Json)) :
    (putMember name j members).lookup other =
      if other = name then some j else members.lookup other := by
  induction members with
  | nil => exact lookup_members name other j []
  | cons entry rest ih =>
      obtain ⟨key, old⟩ := entry
      rw [putMember]
      split
      case isTrue hname =>
        subst hname
        rw [lookup_members, lookup_members]
        split <;> rfl
      case isFalse hname =>
        split
        case isTrue => exact lookup_members name other j _
        case isFalse =>
          rw [lookup_members, lookup_members, ih]
          by_cases hother : other = key
          · rw [if_pos hother, if_neg fun h => hname (h.symm.trans hother), if_pos hother]
          · rw [if_neg hother, if_neg hother]

theorem Json.lookup_eq_none {α : Type} {members : List (String × α)} {name : String}
    (h : name ∉ members.map (·.1)) : members.lookup name = none := by
  rw [List.lookup_eq_none_iff]
  intro member hmember
  rw [bne_iff_ne]
  rintro rfl
  exact h (List.mem_map_of_mem hmember)

/-- Members that may be missing, of which those that are there are looked up. -/
theorem Json.lookup_filterMap {α β : Type} {members : List (String × Option α)}
    (h : (members.map (·.1)).Nodup) (f : α → β) (name : String) :
    (members.filterMap fun (name, a) => a.map fun a => (name, f a)).lookup name =
      (members.lookup name).join.map f := by
  induction members with
  | nil => rfl
  | cons entry rest ih =>
      obtain ⟨key, a⟩ := entry
      obtain ⟨hkey, hrest⟩ := List.nodup_cons.mp h
      have hmore := ih hrest
      rw [lookup_members]
      cases a with
      | none =>
          rw [List.filterMap_cons_none rfl, hmore]
          split
          case isTrue hname =>
            subst hname
            rw [lookup_eq_none hkey]
            rfl
          case isFalse => rfl
      | some a =>
          rw [List.filterMap_cons]
          dsimp only [Option.map_some]
          rw [lookup_members, hmore]
          split <;> rfl

/-! ## Texts -/

namespace Statement

variable (e : Escaping) (r : Request) (m : Memo) (dependencies : List String)

/-- The text that two names lead to: a field of the request, or a value of an attribute by its
number.  This is the text as it is, before it is escaped. -/
def textAt? : List String → Option String
  | [outer, inner] =>
    if outer = "requestContext" then ((requestFields r).lookup inner).join
    else ((m.dependencyAttributes dependencies).get? outer).bind fun a =>
      ((Template.Scope.itemIndex? inner).bind (a.values[·]?)).map Value.text
  | _ => none

theorem lookup_attributes {attributes : AttributeMap} (h : attributes.ids.Nodup)
    (members : List (String × Json)) (id : String) :
    (attributes.foldl (fun (members : List (String × Json)) (entry : String × Attribute) =>
      Json.putMember entry.1 (valueData e entry.2) members) members).lookup id =
        ((attributes.get? id).map (valueData e)).or (members.lookup id) := by
  induction attributes generalizing members with
  | nil => rfl
  | cons entry rest ih =>
      obtain ⟨key, a⟩ := entry
      obtain ⟨hkey, hrest⟩ := List.nodup_cons.mp h
      rw [List.foldl_cons, ih hrest, Json.lookup_putMember, AttributeMap.get?_cons]
      by_cases hid : key = id
      · subst hid
        rw [AttributeMap.get?, Json.lookup_eq_none hkey]
        simp
      · simp [hid, Ne.symm hid]

theorem part_data (outer : String) :
    Template.Scope.part (some (data e r m dependencies)) outer =
      .ok (if outer = "requestContext" then some (requestData e r)
        else ((m.dependencyAttributes dependencies).get? outer).map (valueData e)) := by
  rw [data]
  dsimp only [Template.Scope.part]
  rw [Json.lookup_putMember, lookup_attributes e (m.keyed_dependencyAttributes dependencies).nodup]
  simp

theorem part_requestData (inner : String) :
    Template.Scope.part (some (requestData e r)) inner =
      .ok (((requestFields r).lookup inner).join.map fun v => .string (e.apply v)) := by
  have hnodup : ((requestFields r).map (·.1)).Nodup := by
    simp [requestFields]
  exact congrArg Except.ok (Json.lookup_filterMap hnodup _ inner)

theorem part_valueData (a : Attribute) {inner : String} {j : Json}
    (h : Template.Scope.part (some (valueData e a)) inner = .ok (some j)) :
    ∃ v, ((Template.Scope.itemIndex? inner).bind (a.values[·]?)).map Value.text = some v ∧
      j = .string (e.apply v) := by
  rw [valueData] at h
  dsimp only [Template.Scope.part] at h
  cases hindex : Template.Scope.itemIndex? inner with
  | none =>
      rw [hindex] at h
      cases h
  | some k =>
      rw [hindex] at h
      have hitem := Except.ok.inj h
      rw [List.getElem?_map, Option.map_eq_some_iff] at hitem
      obtain ⟨v, hv, rfl⟩ := hitem
      exact ⟨v.text, by rw [Option.bind_some, hv, Option.map_some], rfl⟩

/-- What two names lead to in the data of a statement is a text, escaped. -/
theorem textAt?_of_follow {names : List String} (hdeep : names.length = 2) {j : Json}
    (h : Template.Scope.follow (data e r m dependencies) names = .ok (some j)) :
    ∃ v, textAt? r m dependencies names = some v ∧ j = .string (e.apply v) := by
  obtain ⟨outer, inner, rfl⟩ := List.length_eq_two.mp hdeep
  rw [Template.Scope.follow, List.foldlM_cons, part_data] at h
  simp only [List.foldlM_cons, List.foldlM_nil, bind, Except.bind] at h
  rw [textAt?]
  by_cases houter : outer = "requestContext"
  · rw [if_pos houter] at h ⊢
    rw [part_requestData] at h
    cases hfield : ((requestFields r).lookup inner).join with
    | none =>
        rw [hfield] at h
        cases h
    | some v =>
        rw [hfield] at h
        cases h
        exact ⟨v, rfl, rfl⟩
  · rw [if_neg houter] at h ⊢
    cases hattribute : (m.dependencyAttributes dependencies).get? outer with
    | none =>
        rw [hattribute] at h
        cases h
    | some a =>
        rw [hattribute, Option.map_some] at h
        rcases hpart : Template.Scope.part (some (valueData e a)) inner with fault | _ | j'
        · rw [hpart] at h
          cases h
        · rw [hpart] at h
          cases h
        · rw [hpart] at h
          cases h
          exact part_valueData e a hpart

end Statement

/-- The name of the principal, as templates refer to it. -/
def Statement.principalName : Reference :=
  .ofSegments (.plain "requestContext".toList) (.plain "principalName".toList)
    ⟨by decide, List.all_eq_true.mp (by decide), by decide⟩
    ⟨by decide, List.all_eq_true.mp (by decide), by decide⟩

theorem Statement.shown_apply (e : Escaping) (v : String) :
    (Json.string (e.apply v)).shown = e.chars v.toList :=
  String.toList_ofList

/-- A statement has the texts of its template as they are, and in the place of each reference the
text that it leads to, escaped. -/
theorem Templates.toList_of_statement {t : Templates} {name : String} {o : Outline}
    (hplain : o.Plain) (hregistered : t.elements? name = Template.ofText? (String.ofList o.text))
    {e : Escaping} {r : Request} {m : Memo} {dependencies : List String} {s : String}
    (h : t.statement name e r m dependencies = .ok s) :
    ∃ value : Reference → String,
      (∀ ref ∈ o.marks, Statement.textAt? r m dependencies ref.path.names = some (value ref)) ∧
        s.toList = o.spell id fun ref => e.chars (value ref).toList := by
  rw [statement] at h
  rcases hrender : t.render name (Statement.data e r m dependencies) with fault | text
  · rw [hrender] at h
    cases h
  rw [hrender] at h
  cases h
  obtain ⟨hvalues, hlist⟩ := toList_of_render hplain hregistered hrender
  have htext : ∀ ref ∈ o.marks, ∃ v, Statement.textAt? r m dependencies ref.path.names = some v ∧
      ref.value? (Statement.data e r m dependencies) = some (.string (e.apply v)) := by
    intro ref href
    obtain ⟨j, hj⟩ := hvalues ref href
    rw [Reference.value?] at hj ⊢
    rcases hfollow : Template.Scope.follow (Statement.data e r m dependencies) ref.path.names with
      fault | _ | j'
    · rw [hfollow] at hj
      cases hj
    · rw [hfollow] at hj
      cases hj
    · obtain ⟨v, hv, rfl⟩ := Statement.textAt?_of_follow e r m dependencies ref.deep hfollow
      exact ⟨v, hv, rfl⟩
  refine ⟨fun ref => (Statement.textAt? r m dependencies ref.path.names).getD "", ?_, ?_⟩
  · intro ref href
    obtain ⟨v, hv, -⟩ := htext ref href
    beta_reduce
    rw [hv, Option.getD_some]
  · rw [hlist]
    refine Interleaved.spell_congr fun ref href => ?_
    obtain ⟨v, hv, hvalue⟩ := htext ref href
    beta_reduce
    rw [hv, hvalue, Option.map_some, Option.getD_some, Option.getD_some]
    exact Statement.shown_apply e v

end AttributeRelease
