import AttributeRelease.Mapping.Rule
import AttributeRelease.Pattern.Replacement
import AttributeRelease.Plugin.Basic

/-!
# Mapped attributes

A mapping replaces values by rules. A value that several rules select is replaced by each of their
results once; one that no rule selects is kept, replaced by a default, or dropped.
-/

namespace AttributeRelease

/-- How values are replaced. -/
structure Mapping where
  /-- The replacements that rules give for the values that they select. -/
  rules : List (String → Option String)
  /-- What stands for values that no rule selects. -/
  fallback : Option String
  /-- Whether values that no rule selects are kept. -/
  passThrough : Bool

/-- The flags under which the pattern of a rule is read. -/
def SourceRule.flags (r : SourceRule) (library : Pattern.Library) : Pattern.Flags :=
  { ignoreCase := r.ignoreCase, library }

/-- The pattern of a rule; unless a part of a value is enough, it has to match from end to end. -/
def SourceRule.compile (r : SourceRule) (library : Pattern.Library := .standard) :
    Except Pattern.Error Pattern :=
  Pattern.ofText (r.flags library) (if r.partly then r.pattern else Pattern.anchored r.pattern)

/-- What a pattern makes of a value in which it occurs. -/
def Pattern.substitute? (p : Pattern) (replacement value : String) : Option String :=
  if p.occursIn value then some (p.replaceAll replacement value) else none

namespace Mapping

/-- The rule of a source. -/
def compileSource (id replacement : String) (r : SourceRule) :
    Except ResolutionError (String → Option String) :=
  match r.compile with
  | .error e =>
    .error (.invalidConfiguration id s!"invalid source value '{r.pattern}': {e.message}")
  | .ok p => .ok (p.substitute? replacement)

/-- The rules of a mapping rule, one for each source. -/
def compileRule (id : String) (r : MappingRule) :
    Except ResolutionError (List (String → Option String)) :=
  r.sources.mapM (compileSource id r.replacement)

/-- The mapping of a definition. -/
def compile (id : String) (rules : List MappingRule) (fallback : Option String)
    (passThrough : Bool) : Except ResolutionError Mapping :=
  match rules.mapM (compileRule id) with
  | .error e => .error e
  | .ok rules => .ok ⟨rules.flatten, fallback, passThrough⟩

/-- An empty default is none. -/
def default? (m : Mapping) : Option String := m.fallback.filter (· ≠ "")

/-- What the rules that select a value make of it, each result once. -/
def results (m : Mapping) (value : String) : List String := keepFirst (m.rules.filterMap (· value))

/-- What a value is replaced by. -/
def replace (m : Mapping) (value : String) : List String :=
  match m.results value with
  | [] => if m.passThrough then [value] else m.default?.toList
  | results => results

/-- The values of a mapped attribute; blank values are passed over. -/
def apply (m : Mapping) (values : List Value) : List Value :=
  if values.isEmpty then m.default?.toList.map .string
  else
    (values.filter fun v => !v.isBlank).flatMap fun v => (m.replace v.text).map .string

/-- Values that no rule selects cannot both be kept and be replaced. -/
def check (m : Mapping) (id : String) : Except ResolutionError Unit :=
  if m.passThrough && m.default?.isSome then
    .error (.invalidConfiguration id "pass-thru and a default value cannot both be configured")
  else .ok ()

end Mapping

/-- A definition with the replacements of the values of its dependencies. -/
def Definition.mapped {σ : Type} (settings : DefinitionSettings) (m : Mapping) : Definition σ :=
  derived settings (m.check settings.id) fun _ values => .ok (m.apply values)

end AttributeRelease
