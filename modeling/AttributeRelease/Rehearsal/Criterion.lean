import AttributeRelease.Json.Access
import AttributeRelease.Release.Criterion

/-!
# Criteria that are written down

A criterion whose answers are known beforehand, and which takes note of every question.
-/

namespace AttributeRelease.ScriptedCriterion

variable {σ : Type}

/-- A truth value, or a text that tells why there is no answer. -/
def answer (j : Json) : Except CriterionError Bool :=
  match j with
  | .string s => .error (.custom s)
  | j => .ok (j.asBool?.getD false)

/-- The answer to a question, and the question as it is noted. Without an answer of its own, a
question whether a value is withheld is answered as the one whether it is permitted. -/
def reply (j : Json) : Question → Except CriterionError Bool × String
  | .applies => (answer (j.member "policy"), "policy")
  | .permits id v => (answer (j.member "permit"), s!"permit:{id}:{v.display}")
  | .denies id v =>
    match j.given? "deny" with
    | some deny => (answer deny, s!"deny:{id}:{v.display}")
    | none => (answer (j.member "permit"), s!"permit:{id}:{v.display}")

/-- Reads a criterion; `note` takes note of questions. -/
def ofDocument (note : String → σ → σ) (j : Json) : CustomCriterion σ where
  evaluate _ question s :=
    let (result, asked) := reply j question
    (result, note (j.textAt "name" ++ ":" ++ asked) s)
  permitsAll := j.flag "everything" false
  check :=
    match j.textAt? "invalid" with
    | some e => .error (.custom e)
    | none => .ok ()

/-- Reads a criterion where a document has one. -/
def ofDocument? (note : String → σ → σ) (j : Json) : Option (CustomCriterion σ) :=
  if j.textAt "f" = "fixed" then some (ofDocument note j) else none

end AttributeRelease.ScriptedCriterion
