import AttributeRelease.Refused
import AttributeRelease.Release.Policy
import AttributeRelease.Release.Selection

/-!
# Release of attributes

The engine applies its policies in order: a policy that applies to the request permits values and
adds criteria that withhold values. When all policies were applied, the permitted values that no
such criterion withholds are released. Without policies nothing is released.
-/

namespace AttributeRelease

variable {σ : Type}

namespace Selection

/-- The values for which a criterion answers yes, up to the first error. -/
def passing (c : Criterion σ) (facts : Facts) (ask : Value → Question) :
    List Value → σ → Except CriterionError (List Value) × σ
  | [], s => (.ok [], s)
  | v :: rest, s =>
    match c.evaluate facts (ask v) s with
    | (.error e, s) => (.error e, s)
    | (.ok keep, s) =>
      match passing c facts ask rest s with
      | (.error e, s) => (.error e, s)
      | (.ok kept, s) => (.ok (if keep then v :: kept else kept), s)

/-- The values of an attribute that a criterion permits. One that permits everything is not
asked. -/
def permitted (facts : Facts) (c : Criterion σ) (id : String) (values : List Value) (s : σ) :
    Except CriterionError (List Value) × σ :=
  if c.permitsAll then (.ok values, s) else passing c facts (.permits id) values s

/-- Applies a rule; one for an attribute that was not resolved has no effect. -/
def applyRule (sel : Selection σ) (r : AttributeRule σ) (s : σ) :
    Except CriterionError (Selection σ) × σ :=
  match sel.facts.attributes.get? r.target with
  | none => (.ok sel, s)
  | some a =>
    let withDeny (sel : Selection σ) : Selection σ :=
      match r.deny with
      | none => sel
      | some c => sel.deny r.target c
    match r.permit with
    | none => (.ok (withDeny sel), s)
    | some c =>
      match permitted sel.facts c r.target a.values s with
      | (.error e, s) => (.error e, s)
      | (.ok values, s) => (.ok (withDeny (sel.retain r.target values)), s)

/-- Applies rules in order. -/
def applyRules (sel : Selection σ) : List (AttributeRule σ) → σ →
    Except CriterionError (Selection σ) × σ
  | [], s => (.ok sel, s)
  | r :: rest, s =>
    match sel.applyRule r s with
    | (.error e, s) => (.error e, s)
    | (.ok sel, s) => sel.applyRules rest s

/-- Applies policies in order; one whose requirement does not hold has no effect. -/
def applyPolicies (sel : Selection σ) : List (Policy σ) → σ →
    Except CriterionError (Selection σ) × σ
  | [], s => (.ok sel, s)
  | p :: rest, s =>
    match p.requirement.evaluate sel.facts .applies s with
    | (.error e, s) => (.error e, s)
    | (.ok false, s) => sel.applyPolicies rest s
    | (.ok true, s) =>
      match sel.applyRules p.rules s with
      | (.error e, s) => (.error e, s)
      | (.ok sel, s) => sel.applyPolicies rest s

/-- Whether some criterion withholds a value; those after the first one that does are not
asked. -/
def withheld (facts : Facts) (id : String) (v : Value) : List (Criterion σ) → σ → Answer σ
  | [], s => (.ok false, s)
  | c :: rest, s =>
    match c.evaluate facts (.denies id v) s with
    | (.ok false, s) => withheld facts id v rest s
    | answer => answer

/-- The values that no criterion withholds. -/
def remaining (facts : Facts) (id : String) (denials : List (Criterion σ)) :
    List Value → σ → Except CriterionError (List Value) × σ
  | [], s => (.ok [], s)
  | v :: rest, s =>
    match withheld facts id v denials s with
    | (.error e, s) => (.error e, s)
    | (.ok withheld, s) =>
      match remaining facts id denials rest s with
      | (.error e, s) => (.error e, s)
      | (.ok kept, s) => (.ok (if withheld then kept else v :: kept), s)

/-- The attributes that are released of some entries; an attribute without values is left out. -/
def release (sel : Selection σ) : List (String × List Value) → σ →
    Except CriterionError AttributeMap × σ
  | [], s => (.ok [], s)
  | (id, values) :: rest, s =>
    match remaining sel.facts id (sel.denialsOf id) values s with
    | (.error e, s) => (.error e, s)
    | (.ok values, s) =>
      match sel.release rest s with
      | (.error e, s) => (.error e, s)
      | (.ok released, s) =>
        if values.isEmpty then (.ok released, s)
        else
          let comparator := (sel.facts.attributes.get? id).bind (·.comparator)
          (.ok ((id, { id, values, comparator }) :: released), s)

end Selection

/-- A service that releases attributes by its policies. -/
structure ReleaseEngine (σ : Type) where
  id : String
  policies : List (Policy σ)

namespace ReleaseEngine

/-- An engine without policies. -/
def empty (id : String) : ReleaseEngine σ := ⟨id, []⟩

/-- Replaces the policies, if the new ones can be used. -/
def reload (e : ReleaseEngine σ) (policies : List (Policy σ)) :
    Except (Refused PolicyError) (ReleaseEngine σ) :=
  match Policy.checkAll policies with
  | .error cause => .error ⟨e.id, cause⟩
  | .ok () => .ok { e with policies }

/-- An engine whose policies can be used. -/
def validated (id : String) (policies : List (Policy σ)) :
    Except (Refused PolicyError) (ReleaseEngine σ) := (empty id).reload policies

/-- The attributes that are released of those that were resolved for a request. -/
def filter (e : ReleaseEngine σ) (attributes : AttributeMap) (request : Request) (s : σ) :
    Except CriterionError AttributeMap × σ :=
  match e.policies with
  | [] => (.ok [], s)
  | policies =>
    match (Selection.start ⟨attributes, request⟩).applyPolicies policies s with
    | (.error e, s) => (.error e, s)
    | (.ok sel, s) => sel.release sel.retained s

end ReleaseEngine

end AttributeRelease
