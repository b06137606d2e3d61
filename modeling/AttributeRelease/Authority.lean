import AttributeRelease.Release.Engine
import AttributeRelease.Resolver

/-!
# Attribute authorities

An authority resolves the attributes for a request and releases those that its policies permit.
-/

namespace AttributeRelease

/-- A resolver, and the policies for what it resolves. -/
structure Authority (σ : Type) where
  resolver : Resolver σ
  engine : ReleaseEngine σ

/-- Why an authority cannot answer. -/
inductive AuthorityError
  | resolution (cause : ResolutionError)
  | filtering (cause : CriterionError)
deriving DecidableEq, Repr

def AuthorityError.message : AuthorityError → String
  | resolution cause => s!"Attribute resolution failed: {cause.message}"
  | filtering cause => s!"Attribute filtering failed: {cause.message}"

namespace Authority

variable {σ : Type}

/-- The attributes for a request, whether they may be released or not. -/
def resolve (a : Authority σ) (request : Request) (s : σ) :
    Except AuthorityError AttributeMap × σ :=
  match a.resolver.resolve request s with
  | (.error e, s) => (.error (.resolution e), s)
  | (.ok attributes, s) => (.ok attributes, s)

/-- The attributes that are released for a request. -/
def release (a : Authority σ) (request : Request) (s : σ) :
    Except AuthorityError AttributeMap × σ :=
  match a.resolver.resolve request s with
  | (.error e, s) => (.error (.resolution e), s)
  | (.ok attributes, s) =>
    match a.engine.filter attributes request s with
    | (.error e, s) => (.error (.filtering e), s)
    | (.ok released, s) => (.ok released, s)

/-- The principal that the subject identifier of a request stands for. -/
def resolvePrincipal (a : Authority σ) (request : Request) (s : σ) :
    Except AuthorityError String × σ :=
  match a.resolver.resolvePrincipal request s with
  | (.error e, s) => (.error (.resolution e), s)
  | (.ok principal, s) => (.ok principal, s)

end Authority

end AttributeRelease
