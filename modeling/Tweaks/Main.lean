import Std.Time.DateTime.Timestamp
import Tweaks.Command

/-!
# The program

Reads what a command needs to see into a workspace, has the command done there,
and makes its report real.

A script to be executed is put into a file in the working folder, and the command
that runs it is shown: starting it is left to the caller.
-/

namespace Tweaks.Program

/-- What lies at a place. -/
def lookAt (place : Place) : IO (Option Node) := do
  let text := (Path.ofRoot place).text
  try
    let octets ← IO.FS.readBinFile text
    return some (.file octets.toList)
  catch _ =>
    try
      let path ← IO.FS.realPath text
      return if ← path.isDir then some .folder else none
    catch _ => return none

/-- A workspace that also knows what paths lead to. -/
def withPaths (w : Workspace) (paths : List Path) : IO Workspace := do
  let places := paths.flatMap fun path => Files.trail (Files.startPlace w.folder path) path.names
  let nodes ← places.filterMapM fun place => do
    return (← lookAt place).map fun node => (place, node)
  return { w with files := ⟨nodes ++ w.files.nodes⟩ }

/-- The name that the running system gives itself, by a folder that it has. -/
def systemName : IO String := do
  if (← lookAt ["proc", "version"]).isSome then return "linux"
  else if (← lookAt ["System", "Library"]).isSome then return "darwin"
  else return "win32"

/-- The lines on standard input. -/
partial def readAnswers (input : IO.FS.Stream) : IO (List String) := do
  let line ← input.getLine
  if line.isEmpty then return []
  else
    let lines := (Text.readLines line.toList).map String.ofList
    return lines ++ (← readAnswers input)

/-- Whether a command may ask a question. -/
def asks : Invocation → Bool
  | .run _ sure => !sure
  | _ => false

/-- The most collections that may lie one within the other in the texts that are read. -/
def deepest : Nat := 486

/-- All that the command for some words needs to see. -/
def gather (words : List String) : IO Workspace := do
  let folder := (Path.ofText (← IO.currentDir).toString).names
  let environment ← [Settings.variableName].filterMapM fun name => do
    return (← IO.getEnv name).map fun value => (name, value)
  let now ← Std.Time.Timestamp.now
  let start : Workspace :=
    ⟨⟨[(folder, .folder)]⟩, folder, environment, ← systemName, now.toSecondsSinceUnixEpoch.val, [],
      fun _ => .ended 0, deepest⟩
  match Invocation.parse words with
  | .error _ => return start
  | .ok invocation =>
    let named := (start.value? Settings.variableName).map Path.ofText
    let w ← withPaths start (named.toList ++ Settings.usualPaths start)
    let w ← withPaths w (Command.pathsOf w invocation)
    if asks invocation then return { w with answers := ← readAnswers (← IO.getStdin) }
    else return w

/-- Writes a file, with the folders around it. -/
def write (place : Place) (text : String) : IO Unit := do
  IO.FS.createDirAll (Path.ofRoot place.dropLast).text
  IO.FS.writeFile (Path.ofRoot place).text text

/-- Puts a script into a file and shows the command that runs it. -/
def handOver (w : Workspace) (e : Execution) : IO Unit := do
  let place := w.folder ++ [Execution.nameStart ++ toString w.now ++ "." ++ e.extension]
  write place e.script
  IO.eprintln (Text.join " " (e.command ++ [(Path.ofRoot place).text]))

/-- The exit status for an ending. -/
def exitCode : Ending → UInt32
  | .status code => UInt32.ofNat (code % 256).toNat
  | .breakdown _ => 1

/-- Makes a report real. -/
def carryOut (w : Workspace) (r : Report) : IO UInt32 := do
  if let some (place, text) := r.saved then write place text
  for e in r.ran do handOver w e
  IO.print r.out
  IO.eprint r.err
  return exitCode r.ending

end Tweaks.Program

/-- Does what the words on the command line ask for. -/
def main (words : List String) : IO UInt32 := do
  let w ← Tweaks.Program.gather words
  match Tweaks.Command.answer? w words with
  | some report => Tweaks.Program.carryOut w report
  | none =>
    IO.eprintln "Usage: twl [OPTIONS] COMMAND [ARGS]..."
    return 2
