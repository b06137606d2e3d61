/-!
# Refused configurations

A service that is given new plugins or policies checks them first, and keeps the old ones if the
new ones cannot be used.
-/

namespace AttributeRelease

/-- A set of plugins or policies was refused, and the one before it stays in use. -/
structure Refused (ε : Type) where
  service : String
  cause : ε
deriving DecidableEq, Repr

def Refused.message {ε : Type} (e : Refused ε) : String :=
  s!"{e.service} configuration is not valid, retaining old configuration"

end AttributeRelease
