import Tweaks.Template.Basic
import Tweaks.Template.Tag
import Tweaks.Template.Token

/-!
# Reading templates

Tokens become a template: a block's start opens a level, its end closes it, and
what stands between is the block's body.  The first token that does not fit
makes the source no template.

Main results:

- `build_text`, `build_opening`, `build_closing`: what each token does.
-/

namespace Tweaks.Template

open Text

/-- Why a source is no template. -/
inductive SyntaxError where
  /-- A tag that is none of the known ones. -/
  | malformed (expression : String)
  /-- A dot that no block surrounds. -/
  | dotOutsideBlock
  /-- The end of a block that was not opened. -/
  | endWithoutBlock
  /-- A block that was not closed, by its parameter. -/
  | unclosed (name : String)
deriving DecidableEq, Repr

/-- The message for a source that is no template. -/
def SyntaxError.message : SyntaxError → String
  | malformed expression => "Invalid expression: \x7b\x7b " ++ expression ++ " \x7d\x7d"
  | dotOutsideBlock => "'\x7b\x7b . \x7d\x7d' used outside of a with block"
  | endWithoutBlock => "'\x7b\x7b end \x7d\x7d' without a matching with block"
  | unclosed name => "Unclosed with block for $" ++ name

/-- A block that is still open: its parameter, and the template up to it. -/
structure OpenBlock where
  name : String
  before : Template
deriving DecidableEq, Repr

/-- Reads tokens behind what was read of the innermost block, or of the whole
template where no block is open. -/
def build : List Token → List OpenBlock → Template → Except SyntaxError Template
  | [], [], read => .ok read
  | [], innermost :: _, _ => .error (.unclosed innermost.name)
  | .text value :: tokens, blocks, read =>
    build tokens blocks (read ++ .text (String.ofList value) .done)
  | .tag _ inner _ :: tokens, blocks, read =>
    match Tag.ofExpression? (stripChars inner) with
    | none => .error (.malformed (String.ofList (stripChars inner)))
    | some (.parameter name pipes) => build tokens blocks (read ++ .hole (some name) pipes .done)
    | some (.dot pipes) =>
      if blocks.isEmpty then .error .dotOutsideBlock
      else build tokens blocks (read ++ .hole none pipes .done)
    | some (.opening name) => build tokens (⟨name, read⟩ :: blocks) .done
    | some .closing =>
      match blocks with
      | [] => .error .endWithoutBlock
      | innermost :: blocks =>
        build tokens blocks (innermost.before ++ .block innermost.name read .done)

/-- Text joins what was read. -/
@[simp]
theorem build_text (value : List Char) (tokens : List Token) (blocks : List OpenBlock)
    (read : Template) :
    build (.text value :: tokens) blocks read =
      build tokens blocks (read ++ .text (String.ofList value) .done) := rfl

/-- A block's start opens a level. -/
theorem build_opening {inner : List Char} {name : String}
    (h : Tag.ofExpression? (stripChars inner) = some (.opening name)) (lead trail : List Char)
    (tokens : List Token) (blocks : List OpenBlock) (read : Template) :
    build (.tag lead inner trail :: tokens) blocks read =
      build tokens (⟨name, read⟩ :: blocks) .done := by
  simp [build, h]

/-- A block's end closes the innermost level. -/
theorem build_closing {inner : List Char}
    (h : Tag.ofExpression? (stripChars inner) = some .closing) (lead trail : List Char)
    (tokens : List Token) (innermost : OpenBlock) (blocks : List OpenBlock) (read : Template) :
    build (.tag lead inner trail :: tokens) (innermost :: blocks) read =
      build tokens blocks (innermost.before ++ .block innermost.name read .done) := by
  simp [build, h]

/-- Reads a template. -/
def parse (source : String) : Except SyntaxError Template :=
  build (scan true source.toList) [] .done

end Tweaks.Template
