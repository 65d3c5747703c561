import Tweaks.Template.Basic

/-!
# Filling in templates

A template with values for its parameters and with pipes gives a text, in a
single pass: values are inserted as they are.  A parameter may be known and have
no value, which counts as the empty text.

Main results:

- `render_append`: a sequence renders as its parts do, one after the other.
-/

namespace Tweaks.Template

/-- Known parameters, each with its value if it was given one.  The first entry
of a name counts. -/
abbrev Values := List (String × Option String)

/-- Pipes by name. -/
abbrev Registry := String → Option (String → String)

/-- Why a template cannot be filled in. -/
inductive RenderError where
  /-- A parameter that is not known. -/
  | unbound (name : String)
  /-- A pipe that the registry lacks. -/
  | unknownPipe (name : String)
deriving DecidableEq, Repr

/-- What is known of a parameter. -/
def Values.find? (values : Values) (name : String) : Option (Option String) :=
  values.lookup name

/-- The value of a parameter, empty where none was given. -/
def Values.get (values : Values) (name : String) : Except RenderError String :=
  match values.find? name with
  | none => .error (.unbound name)
  | some value => .ok (value.getD "")

/-- The value a hole stands for: a parameter's, or the innermost block's. -/
def Values.subject (values : Values) (dot : String) : Option String → Except RenderError String
  | none => .ok dot
  | some name => values.get name

/-- A value through pipes, the first one first. -/
def applyPipes (registry : Registry) : List String → String → Except RenderError String
  | [], value => .ok value
  | pipe :: pipes, value =>
    match registry pipe with
    | none => .error (.unknownPipe pipe)
    | some f => applyPipes registry pipes (f value)

/-- The text of a template, inside a block on a parameter with the value `dot`. -/
def renderIn (registry : Registry) (values : Values) (dot : String) :
    Template → Except RenderError String
  | done => .ok ""
  | text value rest => do
    let after ← renderIn registry values dot rest
    return value ++ after
  | hole name pipes rest => do
    let value ← values.subject dot name
    let shown ← applyPipes registry pipes value
    let after ← renderIn registry values dot rest
    return shown ++ after
  | block name body rest => do
    let value ← values.get name
    let shown ← (if value.isEmpty then .ok "" else renderIn registry values value body)
    let after ← renderIn registry values dot rest
    return shown ++ after

/-- The text of a template. -/
def render (registry : Registry) (values : Values) (t : Template) : Except RenderError String :=
  renderIn registry values "" t

/-- A sequence renders as its parts do, one after the other. -/
theorem renderIn_append (registry : Registry) (values : Values) (dot : String)
    (s t : Template) :
    renderIn registry values dot (s ++ t) = (do
      let before ← renderIn registry values dot s
      let after ← renderIn registry values dot t
      return before ++ after) := by
  induction s with
  | done =>
    change renderIn registry values dot t = (do
      let after ← renderIn registry values dot t
      return "" ++ after)
    simp
  | text value rest ih =>
    simp only [text_append, renderIn, ih, bind_assoc, pure_bind, String.append_assoc]
  | hole name pipes rest ih =>
    simp only [hole_append, renderIn, ih, bind_assoc, pure_bind, String.append_assoc]
  | block name body rest _ ih =>
    simp only [block_append, renderIn, ih, bind_assoc, pure_bind, String.append_assoc]

/-- A sequence renders as its parts do, one after the other. -/
theorem render_append (registry : Registry) (values : Values) (s t : Template) :
    render registry values (s ++ t) = (do
      let before ← render registry values s
      let after ← render registry values t
      return before ++ after) :=
  renderIn_append registry values "" s t

end Tweaks.Template
