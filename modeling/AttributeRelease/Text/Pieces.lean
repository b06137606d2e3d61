/-!
# Pieces of texts

A text is split at every occurrence of a character. There is always one piece more than there are
occurrences.
-/

namespace AttributeRelease.Text

/-- Splits characters at every occurrence of a separator. -/
def pieces (separator : Char) : List Char → List (List Char)
  | [] => [[]]
  | c :: rest =>
    if c = separator then [] :: pieces separator rest
    else
      match pieces separator rest with
      | piece :: more => (c :: piece) :: more
      | [] => [[c]]

/-- There is at least one piece. -/
theorem pieces_ne_nil (separator : Char) (cs : List Char) : pieces separator cs ≠ [] := by
  fun_cases pieces separator cs <;> simp_all

/-- The pieces with the separator between them are the text. -/
theorem intercalate_pieces (separator : Char) (cs : List Char) :
    [separator].intercalate (pieces separator cs) = cs := by
  induction cs with
  | nil => simp [pieces, List.intercalate]
  | cons c rest ih =>
    have h := pieces_ne_nil separator rest
    by_cases hc : c = separator
    · rw [pieces, if_pos hc]
      cases hp : pieces separator rest with
      | nil => exact absurd hp h
      | cons p more => simp [List.intercalate] at ih ⊢; rw [hp] at ih; simp [ih, hc]
    · rw [pieces, if_neg hc]
      cases hp : pieces separator rest with
      | nil => exact absurd hp h
      | cons p more =>
        rw [hp] at ih
        cases more <;> simp_all [List.intercalate]

end AttributeRelease.Text
