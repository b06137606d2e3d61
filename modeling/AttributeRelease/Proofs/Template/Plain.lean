import AttributeRelease.Template.Basic

/-!
# Templates that include no others

Other templates are looked up where a template includes them, and nowhere else.  So a template that
includes none shows the same whatever else is registered.
-/

namespace AttributeRelease

namespace Template

mutual

/-- Whether no other template is included.  The body of a definition is shown only where it is
included. -/
def Element.isPlain : Element → Bool
  | .block _ _ body none => plain body
  | .block _ _ body (some other) => plain body && plain other
  | .include .. => false
  | _ => true

def plain : List Element → Bool
  | [] => true
  | e :: rest => e.isPlain && plain rest

end

variable {known known' : Definitions} {include' include'' : Include}

mutual

theorem showOne_of_isPlain (current : Option String) (s : Scope) :
    (e : Element) → e.isPlain = true → ∀ d,
      showOne known include' current s e d = showOne known' include'' current s e d
  | .text cs, _, d => by rw [showOne, showOne]
  | .show p, _, d => by rw [showOne, showOne]
  | .call c, _, d => by rw [showOne, showOne]
  | .block c names body none, h, d => by
      rw [Element.isPlain] at h
      rw [showOne, showOne]
      have hbody : (fun s d => showAll known include' none s body d) =
          fun s d => showAll known' include'' none s body d := by
        funext s d
        exact showAll_of_plain none s body h d
      rw [hbody]
  | .block c names body (some other), h, d => by
      rw [Element.isPlain, Bool.and_eq_true] at h
      rw [showOne, showOne]
      have hbody : (fun s d => showAll known include' none s body d) =
          fun s d => showAll known' include'' none s body d := by
        funext s d
        exact showAll_of_plain none s body h.1 d
      have hother : (fun s d => showAll known include' none s other d) =
          fun s d => showAll known' include'' none s other d := by
        funext s d
        exact showAll_of_plain none s other h.2 d
      rw [hbody, hother]
  | .define c body, _, d => by rw [showOne, showOne]
  | .include .., h, _ => by rw [Element.isPlain] at h; cases h

theorem showAll_of_plain (current : Option String) (s : Scope) :
    (es : List Element) → plain es = true → ∀ d,
      showAll known include' current s es d = showAll known' include'' current s es d
  | [], _, d => by rw [showAll, showAll]
  | e :: rest, h, d => by
      rw [plain, Bool.and_eq_true] at h
      rw [showAll, showAll, showOne_of_isPlain current s e h.1 d]
      congr 1
      funext ⟨text, d'⟩
      dsimp only
      rw [showAll_of_plain current s rest h.2 d']

end

theorem showWithin_of_plain (room : Nat) (name : Option String) {elements : List Element}
    (h : plain elements = true) (s : Scope) (d : Definitions) :
    showWithin known (room + 1) name elements s d =
      showWithin known' (room + 1) name elements s d := by
  simp only [showWithin]
  exact showAll_of_plain name s elements h d

theorem render_of_plain (name : String) {elements : List Element} (h : plain elements = true)
    (data : Json) : render known name elements data = render known' name elements data := by
  rw [render, render]
  exact congrArg _ (showWithin_of_plain 999 (some name) h (.start data) [])

end Template

namespace Templates

/-- The elements of a registered template. -/
def elements? (t : Templates) (name : String) : Option (List Template.Element) :=
  t.known.lookup name

/-- A template that includes no others shows the same wherever it is registered. -/
theorem render_eq_of_plain {t t' : Templates} {name : String}
    (hsame : t'.elements? name = t.elements? name)
    (hplain : ∀ elements ∈ t.elements? name, Template.plain elements = true) (data : Json) :
    t'.render name data = t.render name data := by
  rw [elements?, elements?] at hsame
  rw [render, render, hsame]
  cases hfound : t.known.lookup name with
  | none => rfl
  | some elements =>
      dsimp only
      rw [Template.render_of_plain name (hplain elements hfound)]

/-! ## Registration -/

theorem lookup_filter_ne {known : Template.Definitions} {name other : String}
    (h : other ≠ name) : (known.filter (·.1 ≠ name)).lookup other = known.lookup other := by
  induction known with
  | nil => rfl
  | cons entry rest ih =>
      obtain ⟨key, elements⟩ := entry
      by_cases hkey : key = name
      · have hother : (other == key) = false := by simpa [hkey] using h
        rw [List.filter_cons_of_neg (by simp [hkey]), ih, List.lookup_cons, hother]
      · rw [List.filter_cons_of_pos (by simp [hkey]), List.lookup_cons, List.lookup_cons, ih]

theorem elements?_register {t t' : Templates} {name text : String}
    (h : t.register name text = .ok t') (other : String) :
    t'.elements? other =
      if other = name then Template.ofText? text else t.elements? other := by
  rw [register] at h
  split at h
  case isTrue => cases h
  case isFalse =>
    cases hread : Template.ofText? text with
    | none =>
        rw [hread] at h
        cases h
    | some elements =>
        rw [hread] at h
        cases h
        rw [elements?, elements?, List.lookup_cons]
        by_cases hname : other = name
        · rw [if_pos hname, hname, beq_self_eq_true]
        · rw [if_neg hname, beq_eq_false_iff_ne.mpr hname, lookup_filter_ne hname]

end Templates

end AttributeRelease
