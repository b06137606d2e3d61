import AttributeRelease.Json.Record

/-!
# Mapping rules

Rules that replace values: a replacement, and the patterns of the values that it replaces.
-/

namespace AttributeRelease

/-- The values that a pattern selects. -/
structure SourceRule where
  pattern : String
  ignoreCase : Bool := false
  /-- A match anywhere in the value selects it; otherwise the whole value has to match. -/
  partly : Bool := false
deriving DecidableEq

namespace SourceRule

def toJson (r : SourceRule) : Json :=
  .object [("value", .string r.pattern), ("ignore_case", .bool r.ignoreCase),
    ("partial_match", .bool r.partly)]

def ofJson? (j : Json) : Option SourceRule :=
  match j.slots? ["value", "ignore_case", "partial_match"] with
  | some [pattern, ignoreCase, partly] => do
    return ⟨← pattern.required? Json.asString?, ← ignoreCase.orElse? false Json.asBool?,
      ← partly.orElse? false Json.asBool?⟩
  | _ => none

end SourceRule

/-- A replacement and the rules that lead to it. -/
structure MappingRule where
  replacement : String
  sources : List SourceRule
deriving DecidableEq

namespace MappingRule

def toJson (r : MappingRule) : Json :=
  .object [("return_value", .string r.replacement),
    ("source_values", .array (r.sources.map SourceRule.toJson))]

def ofJson? (j : Json) : Option MappingRule :=
  match j.slots? ["return_value", "source_values"] with
  | some [replacement, sources] => do
    return ⟨← replacement.required? Json.asString?,
      ← sources.required? (Json.asArray? SourceRule.ofJson?)⟩
  | _ => none

end MappingRule

end AttributeRelease
