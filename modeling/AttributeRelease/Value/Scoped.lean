/-!
# Scoped values

A value qualified by a security domain. Its text is split at a delimiter that occurs exactly once.
-/

namespace AttributeRelease

/-- A value qualified by a security domain. -/
structure Scoped where
  value : String
  scope : String
deriving DecidableEq

namespace Scoped

/-- A text that is not scoped by exactly one delimiter. -/
structure NotScoped where
  value : String
  delimiter : String
deriving DecidableEq

def NotScoped.message (e : NotScoped) : String :=
  s!"Value '{e.value}' is not scoped by exactly one '{e.delimiter}'"

/-- Splits characters at the first occurrence of a delimiter into what stands before and after. -/
def cut? (delimiter : List Char) : List Char → Option (List Char × List Char)
  | [] => if delimiter = [] then some ([], []) else none
  | c :: rest =>
    if delimiter.isPrefixOf (c :: rest) then some ([], (c :: rest).drop delimiter.length)
    else (cut? delimiter rest).map fun (before, after) => (c :: before, after)

/-- Nothing is lost by a split. -/
theorem eq_of_cut? {d cs before after : List Char} (h : cut? d cs = some (before, after)) :
    cs = before ++ d ++ after := by
  induction cs generalizing before with
  | nil => grind [cut?]
  | cons c rest ih =>
    rw [cut?] at h
    split at h
    · rename_i hp
      obtain ⟨t, ht⟩ := List.isPrefixOf_iff_prefix.1 hp
      rw [← ht] at h ⊢
      grind
    · obtain ⟨⟨b, a⟩, hcut, he⟩ := Option.map_eq_some_iff.1 h
      simp only [Prod.mk.injEq] at he
      rw [← he.1, ih (he.2 ▸ hcut)]
      rfl

/-- Splits a text at the delimiter, which may not be empty, nor occur again after its first
occurrence. -/
def parse (raw delimiter : String) : Except NotScoped Scoped :=
  let d := delimiter.toList
  match cut? d raw.toList with
  | some (value, scope) =>
    if d ≠ [] ∧ cut? d scope = none then .ok ⟨String.ofList value, String.ofList scope⟩
    else .error ⟨raw, delimiter⟩
  | none => .error ⟨raw, delimiter⟩

/-- The delimiter of scoped values. -/
def delimiter : String := "@"

/-- The text of a scoped value. -/
def text (s : Scoped) : String := s.value ++ delimiter ++ s.scope

end Scoped

end AttributeRelease
