import AttributeRelease.Pattern.Basic
import AttributeRelease.Text.Case

/-!
# Matchers

A matcher accepts texts: one text, with or without regard to case, or every text that a pattern
matches from end to end.
-/

namespace AttributeRelease

/-- A pattern that a matcher was to be made of cannot be used. -/
structure PatternRefused where
  pattern : String
  error : Pattern.Error
deriving DecidableEq, Repr

def PatternRefused.message (e : PatternRefused) : String :=
  s!"Invalid regular expression '{e.pattern}': {e.error.message}"

/-- A set of texts. -/
inductive Matcher
  | exact (text : String) (caseSensitive : Bool)
  | pattern (p : Pattern)
deriving Repr

namespace Matcher

/-- The matcher of a pattern that has to match from end to end. -/
def ofPattern (source : String) (library : Pattern.Library := .standard) :
    Except PatternRefused Matcher :=
  match Pattern.ofText { library } (Pattern.anchored source) with
  | .ok p => .ok (.pattern p)
  | .error e => .error ⟨source, e⟩

/-- Whether a matcher accepts a text. Without regard to case, texts agree when they have the same
lower case. -/
def accepts : Matcher → String → Bool
  | exact text true, candidate => text == candidate
  | exact text false, candidate => Text.lowercase text == Text.lowercase candidate
  | pattern p, candidate => p.occursIn candidate

end Matcher

end AttributeRelease
