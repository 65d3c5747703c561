import Tweaks.Console.Wrap

/-!
# Notes and questions

What commands say beside their results: errors in the way a command line is
written, warnings, and questions that are answered with yes or no.

Main results:

- `ask_nil`: without an answer there is none.
-/

namespace Tweaks.Console

/-- A message in a frame that says it is an error. -/
def errorFrame (message : String) : String :=
  let title := "─ Error "
  let inner := width - 2
  let top := title.toList ++ List.replicate (inner - title.length) '─'
  let middle := (wrap (inner - 2) true message.toList).map fun line =>
    "│ ".toList ++ pad (inner - 2) line ++ " │".toList
  let lines := ('╭' :: top ++ ['╮']) :: middle ++ ['╰' :: List.replicate inner '─' ++ ['╯']]
  String.ofList (lines.flatMap fun line => line ++ ['\n'])

/-- The column in which the texts of warnings start. -/
def noticeMargin : Nat := 9

/-- The lines of a warning behind their margins. -/
def warningLines (message : String) : List (List Char) :=
  wrap (width - noticeMargin) true message.toList

/-- A warning. -/
def warning (message : String) : String :=
  let lines := match warningLines message with
    | [] => []
    | first :: rest =>
      ("WARNING  ".toList ++ first) :: rest.map fun line => List.replicate noticeMargin ' ' ++ line
  String.ofList (lines.flatMap fun line => line ++ ['\n'])

/-! ## Questions -/

/-- What comes of a question. -/
inductive Reply where
  | yes
  | no
  /-- Nothing was said. -/
  | silence
deriving DecidableEq, Repr

/-- What an answer means, if it means anything.  Saying nothing means no. -/
def Reply.ofLine? (line : String) : Option Reply :=
  let word := (Text.strip line).toLower
  if word = "y" || word = "yes" then some .yes
  else if word = "n" || word = "no" || word = "" then some .no
  else none

/-- Asks a question until an answer has a meaning: what is shown meanwhile, and
what comes of it. -/
def ask (question : String) : (answers : List String) → String × Reply
  | [] => (question, .silence)
  | line :: rest =>
    match Reply.ofLine? line with
    | some reply => (question ++ line ++ "\n", reply)
    | none =>
      let (shown, reply) := ask question rest
      (question ++ line ++ "\nError: invalid input\n" ++ shown, reply)

/-- Without an answer there is none. -/
@[simp]
theorem ask_nil (question : String) : ask question [] = (question, .silence) := rfl

end Tweaks.Console
