import Tweaks.Text.Order

/-!
# Templates

A template is a sequence of literal text, holes and blocks.  A hole stands for
the value of a parameter, or of the innermost block's parameter, passed through
pipes.  A block stands for its body where its parameter has a value that is not
empty, and for nothing elsewhere.
-/

namespace Tweaks

/-- A template, from its first piece on. -/
inductive Template where
  /-- The end of a template or of a block. -/
  | done
  /-- Literal text. -/
  | text (value : String) (rest : Template)
  /-- A parameter, or the innermost block's if no name is given, through pipes. -/
  | hole (name : Option String) (pipes : List String) (rest : Template)
  /-- A block on a parameter. -/
  | block (name : String) (body rest : Template)
deriving DecidableEq, Repr, Inhabited

namespace Template

/-- One template behind another. -/
def append : Template → Template → Template
  | done, t => t
  | text value rest, t => text value (rest.append t)
  | hole name pipes rest, t => hole name pipes (rest.append t)
  | block name body rest, t => block name body (rest.append t)

instance : Append Template := ⟨append⟩

@[simp]
theorem done_append (t : Template) : done ++ t = t := rfl

@[simp]
theorem text_append (value : String) (rest t : Template) :
    text value rest ++ t = text value (rest ++ t) := rfl

@[simp]
theorem hole_append (name : Option String) (pipes : List String) (rest t : Template) :
    hole name pipes rest ++ t = hole name pipes (rest ++ t) := rfl

@[simp]
theorem block_append (name : String) (body rest t : Template) :
    block name body rest ++ t = block name body (rest ++ t) := rfl

/-- The parameters a template refers to, in order of appearance. -/
def names : Template → List String
  | done => []
  | text _ rest => rest.names
  | hole name _ rest => name.toList ++ rest.names
  | block name body rest => name :: body.names ++ rest.names

/-- The pipes a template uses, in order of appearance. -/
def pipeNames : Template → List String
  | done => []
  | text _ rest => rest.pipeNames
  | hole _ pipes rest => pipes ++ rest.pipeNames
  | block _ body rest => body.pipeNames ++ rest.pipeNames

/-- The parameters a template refers to, in ascending order. -/
def parameters (t : Template) : List String :=
  Text.sortDistinct t.names

/-- The pipes a template uses, in ascending order. -/
def pipes (t : Template) : List String :=
  Text.sortDistinct t.pipeNames

end Template

end Tweaks
