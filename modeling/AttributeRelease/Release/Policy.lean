import AttributeRelease.Release.Criterion

/-!
# Policies

A policy says for which requests it applies, and which values of which attributes are then
released or withheld. A group of policies is checked before it is used.
-/

namespace AttributeRelease

/-- What a policy says about an attribute. -/
structure AttributeRule (σ : Type) where
  target : String
  permit : Option (Criterion σ) := none
  deny : Option (Criterion σ) := none

/-- Rules for attributes, and the requests that they are for. -/
structure Policy (σ : Type) where
  id : String
  requirement : Criterion σ
  rules : List (AttributeRule σ)

/-- Why a group of policies cannot be used. -/
inductive PolicyError
  | unnamed
  | requirement (policy : String) (e : CriterionError)
  | unnamedAttribute (policy : String)
  | rule (policy target : String) (e : CriterionError)
  /-- Two policies have one id. -/
  | duplicate (policy : String)
deriving DecidableEq, Repr

def PolicyError.message : PolicyError → String
  | unnamed => "Invalid filter policy '': policy id is empty"
  | requirement policy e => s!"Invalid filter policy '{policy}': requirement: {e.message}"
  | unnamedAttribute policy =>
    s!"Invalid filter policy '{policy}': attribute rule without attribute id"
  | rule policy target e => s!"Invalid filter policy '{policy}': rule for '{target}': {e.message}"
  | duplicate policy => s!"Duplicate filter policy id: {policy}"

variable {σ : Type}

/-- Checks a criterion, if there is one, and says where it stands if it has a fault. -/
def Criterion.checkAs (c : Option (Criterion σ)) (wrap : CriterionError → PolicyError) :
    Except PolicyError Unit :=
  match c with
  | none => .ok ()
  | some c => c.check.mapError wrap

/-- Checks a rule of a policy: its permit before its deny. -/
def AttributeRule.check (policy : String) (r : AttributeRule σ) : Except PolicyError Unit :=
  if r.target = "" then .error (.unnamedAttribute policy)
  else do
    Criterion.checkAs r.permit (.rule policy r.target)
    Criterion.checkAs r.deny (.rule policy r.target)

namespace Policy

/-- Checks a policy: its id, its requirement, then its rules in order. -/
def check (p : Policy σ) : Except PolicyError Unit :=
  if p.id = "" then .error .unnamed
  else do
    p.requirement.check.mapError (.requirement p.id)
    p.rules.forM (AttributeRule.check p.id)

/-- Checks policies in order; `seen` holds the ids of those before. -/
def checkFrom (seen : List String) : List (Policy σ) → Except PolicyError Unit
  | [] => .ok ()
  | p :: rest =>
    if seen.contains p.id then .error (.duplicate p.id)
    else do
      p.check
      checkFrom (p.id :: seen) rest

/-- Checks a group of policies. -/
def checkAll (policies : List (Policy σ)) : Except PolicyError Unit := checkFrom [] policies

end Policy

end AttributeRelease
