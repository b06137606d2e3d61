import AttributeRelease.Attribute
import AttributeRelease.Request
import AttributeRelease.Release.Matcher

/-!
# Criteria

A criterion answers questions about a request and the attributes that were resolved for it: whether
a policy applies, whether a value may be released, whether it must be withheld. Criteria are built
from simple ones with `all`, `any` and `not`; the members are asked from left to right, and only
until the answer is known. A criterion of the embedding program can keep a state of its own, which
every evaluation threads through.
-/

namespace AttributeRelease

/-! ## Errors -/

/-- Why a criterion cannot be evaluated or used. -/
inductive CriterionError
  /-- A criterion on values was asked about a policy, but names no attribute. -/
  | valueWithoutAttribute
  /-- A criterion on scopes was asked about a policy, but names no attribute. -/
  | scopeWithoutAttribute
  /-- `all` (or otherwise `any`) has no members. -/
  | withoutMembers (all : Bool)
  | emptyBounds (least most : Nat) (target : String)
  /-- A criterion of the embedding program failed. -/
  | custom (text : String)
deriving DecidableEq, Repr

namespace CriterionError

def detail : CriterionError → String
  | valueWithoutAttribute =>
    "attribute value functor used as a policy requirement needs an attribute id"
  | scopeWithoutAttribute =>
    "attribute scope functor used as a policy requirement needs an attribute id"
  | withoutMembers true => "AND functor requires at least one child"
  | withoutMembers false => "OR functor requires at least one child"
  | emptyBounds least most target => s!"minimum {least} exceeds maximum {most} for '{target}'"
  | custom text => text

def message (e : CriterionError) : String := s!"Filter processing error: {e.detail}"

end CriterionError

/-! ## Questions -/

/-- What is known when attributes are released. -/
structure Facts where
  attributes : AttributeMap
  request : Request

/-- What a criterion is asked. -/
inductive Question
  /-- Whether a policy applies. -/
  | applies
  /-- Whether a value of an attribute may be released. -/
  | permits (target : String) (value : Value)
  /-- Whether a value of an attribute is withheld. -/
  | denies (target : String) (value : Value)
deriving DecidableEq

/-- An answer that may fail, and the state after it. -/
abbrev Answer (σ : Type) := Except CriterionError Bool × σ

/-- A criterion that the embedding program supplies. -/
structure CustomCriterion (σ : Type) where
  evaluate : Facts → Question → σ → Answer σ
  /-- Promises that every value is permitted. -/
  permitsAll : Bool := false
  check : Except CriterionError Unit := .ok ()

/-! ## Criteria -/

/-- A part of the request that is a text. -/
inductive RequestField
  | requester
  | issuer
  | principalName
  | authenticationMethod
deriving DecidableEq, Repr

/-- The text of a field; the local entity counts as the issuer if it is known. -/
def RequestField.read (r : Request) : RequestField → Option String
  | requester => r.requester
  | issuer => r.localEntityId.or r.issuer
  | principalName => r.principalName
  | authenticationMethod => r.authenticationMethod

/-- A party whose metadata can be looked at. -/
inductive Party
  | requester
  | issuer
deriving DecidableEq, Repr

def Party.metadata? (r : Request) : Party → Option EntityDescriptor
  | requester => r.peerMetadata
  | issuer => r.localMetadata

/-- A criterion. -/
inductive Criterion (σ : Type) where
  | always
  /-- All members hold; without members it does not hold. -/
  | all (members : List (Criterion σ))
  /-- Some member holds. -/
  | any (members : List (Criterion σ))
  | not (c : Criterion σ)
  /-- A field of the request is known and accepted. -/
  | request (field : RequestField) (matcher : Matcher)
  /-- The value in question, or some value of the named attribute, is accepted. -/
  | value (target : Option String) (matcher : Matcher)
  /-- The same for the scope of a value. -/
  | scope (target : Option String) (matcher : Matcher)
  /-- The number of values of an attribute is within bounds. -/
  | count (target : String) (least most : Nat)
  /-- Some value of an attribute in a party's metadata is accepted. -/
  | entity (party : Party) (name : String) (format : Option String) (matcher : Matcher)
  | custom (c : CustomCriterion σ)

namespace Criterion

variable {σ : Type}

instance : Inhabited (Criterion σ) := ⟨always⟩

/-! ## Simple criteria -/

/-- Whether some value of an attribute passes a test. -/
def someValue (facts : Facts) (target : String) (test : Value → Bool) : Bool :=
  ((facts.attributes.get? target).map fun a => a.values.any test).getD false

/-- The answer of a test of values. It is made for the value in question, unless the criterion
names another attribute: then for the values of that one. -/
def testValues (facts : Facts) (target : Option String) (missing : CriterionError)
    (test : Value → Bool) : Question → Except CriterionError Bool
  | .applies =>
    match target with
    | none => .error missing
    | some id => .ok (someValue facts id test)
  | .permits id v | .denies id v =>
    match target with
    | none => .ok (test v)
    | some other => .ok (if other = id then test v else someValue facts other test)

/-- Whether a party's metadata has an accepted value of an attribute. -/
def entityHolds (facts : Facts) (party : Party) (name : String) (format : Option String)
    (matcher : Matcher) : Bool :=
  match (party.metadata? facts.request).bind EntityDescriptor.attributes? with
  | none => false
  | some attributes =>
    let named := attributes.filter fun a =>
      a.name == name && (format.isNone || a.nameFormat == format)
    ((named.flatMap (·.values)).filterMap EntityValue.text?).any matcher.accepts

/-! ## Evaluation -/

/-- Turns the answer of a criterion over. -/
def negate : Answer σ → Answer σ
  | (.ok b, s) => (.ok !b, s)
  | (.error e, s) => (.error e, s)

mutual

/-- The answer of a criterion to a question. -/
def evaluate (facts : Facts) (q : Question) : Criterion σ → σ → Answer σ
  | always, s => (.ok true, s)
  | all [], s => (.ok false, s)
  | all members, s => evaluateAll facts q members s
  | any members, s => evaluateAny facts q members s
  | not c, s => negate (c.evaluate facts q s)
  | request field matcher, s => (.ok ((field.read facts.request).any matcher.accepts), s)
  | value target matcher, s =>
    (testValues facts target .valueWithoutAttribute (fun v => matcher.accepts v.text) q, s)
  | scope target matcher, s =>
    (testValues facts target .scopeWithoutAttribute
      (fun v => v.scope?.any matcher.accepts) q, s)
  | count target least most, s =>
    let n := ((facts.attributes.get? target).map fun a => a.values.length).getD 0
    (.ok (least ≤ n && n ≤ most), s)
  | entity party name format matcher, s =>
    (.ok (entityHolds facts party name format matcher), s)
  | custom c, s => c.evaluate facts q s

/-- Whether all members hold; members after one that does not hold are not asked. -/
def evaluateAll (facts : Facts) (q : Question) : List (Criterion σ) → σ → Answer σ
  | [], s => (.ok true, s)
  | c :: rest, s =>
    match c.evaluate facts q s with
    | (.ok true, s) => evaluateAll facts q rest s
    | answer => answer

/-- Whether some member holds; members after one that holds are not asked. -/
def evaluateAny (facts : Facts) (q : Question) : List (Criterion σ) → σ → Answer σ
  | [], s => (.ok false, s)
  | c :: rest, s =>
    match c.evaluate facts q s with
    | (.ok false, s) => evaluateAny facts q rest s
    | answer => answer

end

/-! ## Without evaluation -/

mutual

/-- Whether a criterion is known to permit every value without being asked. -/
def permitsAll : Criterion σ → Bool
  | always => true
  | any members => somePermitsAll members
  | custom c => c.permitsAll
  | _ => false

def somePermitsAll : List (Criterion σ) → Bool
  | [] => false
  | c :: rest => c.permitsAll || somePermitsAll rest

end

mutual

/-- Whether a criterion can be used: `all` and `any` need members, and bounds must not be empty.
The first fault from the left counts. -/
def check : Criterion σ → Except CriterionError Unit
  | all members => if members.isEmpty then .error (.withoutMembers true) else checkEach members
  | any members => if members.isEmpty then .error (.withoutMembers false) else checkEach members
  | not c => c.check
  | count target least most =>
    if least ≤ most then .ok () else .error (.emptyBounds least most target)
  | custom c => c.check
  | _ => .ok ()

def checkEach : List (Criterion σ) → Except CriterionError Unit
  | [] => .ok ()
  | c :: rest =>
    match c.check with
    | .ok () => checkEach rest
    | .error e => .error e

end

end Criterion

end AttributeRelease
