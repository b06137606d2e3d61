import AttributeRelease.Template.Parser
import AttributeRelease.Template.Render
import AttributeRelease.Text.Blank

/-!
# Registered templates

Templates are read when they are registered and shown by name. A template that cannot be read
leaves the one that is registered under its name in place.
-/

namespace AttributeRelease

/-- Templates by name. -/
structure Templates where
  known : Template.Definitions

/-- Why a template cannot be registered or shown. -/
inductive TemplateError
  | unnamed
  | malformed (name : String)
  | unknown (name : String)
  | failed (name : String) (e : Template.RenderError)
deriving DecidableEq, Repr

def TemplateError.message : TemplateError → String
  | unnamed => "template name must not be empty"
  | malformed name => s!"template '{name}' is invalid: invalid syntax"
  | unknown name => s!"no template registered as '{name}'"
  | failed name e => s!"template '{name}': {e.message}"

namespace Templates

def empty : Templates := ⟨[]⟩

/-- Whether there is a template with a name. -/
def contains (t : Templates) (name : String) : Bool := (t.known.lookup name).isSome

/-- Registers a template under a name that is not blank, in place of the one before it. -/
def register (t : Templates) (name text : String) : Except TemplateError Templates :=
  if Text.trim name = "" then .error .unnamed
  else
    match Template.ofText? text with
    | none => .error (.malformed name)
    | some elements => .ok ⟨(name, elements) :: t.known.filter (·.1 ≠ name)⟩

/-- The text of a registered template for data. -/
def render (t : Templates) (name : String) (data : Json) : Except TemplateError String :=
  match t.known.lookup name with
  | none => .error (.unknown name)
  | some elements => (Template.render t.known name elements data).mapError (.failed name)

end Templates

end AttributeRelease
