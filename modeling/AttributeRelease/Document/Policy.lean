import AttributeRelease.Json.Access
import AttributeRelease.Release.Policy

/-!
# Policies in documents

How release policies are written: a policy has an id, a requirement and rules, and a criterion is an
object that tells by `f` what it asks. Criteria of the embedding program are read by a function of
its own.
-/

namespace AttributeRelease.Document

variable {σ : Type}

/-- A set of texts: one text, or a pattern. -/
def matcher (j : Json) : Except PatternRefused Matcher :=
  match j.textAt? "regex" with
  | some pattern => Matcher.ofPattern pattern
  | none => .ok (.exact (j.textAt "exact") (j.flag "cs" true))

def requestField : String → RequestField
  | "requester" => .requester
  | "issuer" => .issuer
  | "principal" => .principalName
  | _ => .authenticationMethod

/-- A criterion that lies at most `room` deep. One that is unknown can never be used. -/
def criterionWithin (custom : Json → Option (CustomCriterion σ)) :
    Nat → Json → Except PatternRefused (Criterion σ)
  | 0, _ => .ok (.any [])
  | room + 1, j =>
    let attr := j.textAt? "attr"
    let texts := matcher (j.member "m")
    match j.textAt "f" with
    | "any" => .ok .always
    | "and" => ((j.list "of").mapM (criterionWithin custom room)).map .all
    | "or" => ((j.list "of").mapM (criterionWithin custom room)).map .any
    | "not" => (criterionWithin custom room (j.member "of")).map .not
    | "request" => texts.map (.request (requestField (j.textAt "field")))
    | "value" => texts.map (.value attr)
    | "scope" => texts.map (.scope attr)
    | "count" =>
      .ok (.count (j.textAt "attr") (j.member "min").nat (j.member "max").nat)
    | "entity" =>
      let party : Party := if j.textAt "target" = "requester" then .requester else .issuer
      texts.map (.entity party (j.textAt "name") (j.textAt? "name_format"))
    | _ => .ok (((custom j).map .custom).getD (.any []))

def criterion (custom : Json → Option (CustomCriterion σ)) (j : Json) :
    Except PatternRefused (Criterion σ) :=
  criterionWithin custom (j.height + 1) j

def rule (custom : Json → Option (CustomCriterion σ)) (j : Json) :
    Except PatternRefused (AttributeRule σ) := do
  let permit ← (j.given? "permit").mapM (criterion custom)
  let deny ← (j.given? "deny").mapM (criterion custom)
  return { target := j.textAt "attr", permit, deny }

def policy (custom : Json → Option (CustomCriterion σ)) (j : Json) :
    Except PatternRefused (Policy σ) := do
  let requirement ← criterion custom (j.member "when")
  let rules ← (j.list "rules").mapM (rule custom)
  return { id := j.textAt "id", requirement, rules }

end AttributeRelease.Document
