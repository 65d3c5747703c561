import Tweaks.Problem
import Tweaks.Settings
import Tweaks.Workspace

/-!
# Where settings come from

Settings lie in a file that a variable names, or else in the nearest one of its
usual name, from the working folder upwards.  Where there is no such file,
everything is as it usually is.
-/

namespace Tweaks.Settings

/-- The usual name of the file with settings. -/
def fileName : String := "twl.yaml"

/-- The variable that names a file with settings. -/
def variableName : String := "TWL_CONFIG"

/-- The paths at which settings may lie where no variable names one. -/
def usualPaths (w : Workspace) : List Path :=
  (Workspace.ancestors w.folder).map fun place => (Path.ofRoot place).child fileName

/-- The first of the paths that leads to anything. -/
def firstPresent? (w : Workspace) : List Path → Except Obstacle (Option Path)
  | [] => .ok none
  | path :: rest =>
    match w.present path with
    | .error e => .error (.breakdown (.file e))
    | .ok true => .ok (some path)
    | .ok false => firstPresent? w rest

/-- The path of the file with settings, if there is one. -/
def find? (w : Workspace) : Except Obstacle (Option Path) :=
  match w.value? variableName with
  | some text => .ok (some (Path.ofText text))
  | none => firstPresent? w (usualPaths w)

/-- The settings in the text of a file at a place. -/
def ofText (deepest : Nat) (path : Path) (place : Place) (text : String) :
    Except Obstacle Settings :=
  match Yaml.parse deepest text with
  | .error .malformed => .error (.complaint (.unreadable path))
  | .error fault => .error (.breakdown (.value fault))
  | .ok d =>
    match if d.isFalsy then some [] else d.entries? with
    | none => .error (.complaint (.noMapping path))
    | some entries =>
      match ofEntries entries with
      | .error fields => .error (.complaint (.rejected path fields))
      | .ok s => .ok { s with root := some (Path.ofRoot place.dropLast) }

/-- The settings in a file, or the usual ones if there is none.  No file can be looked for
whose name is too long. -/
def loadFrom (w : Workspace) (path : Path) : Except Obstacle Settings :=
  match w.look path with
  | .error .nameTooLong => .error (.breakdown (.file .nameTooLong))
  | .error _ => .ok standard
  | .ok (_, .folder) => .error (.complaint (.unreadable path))
  | .ok (place, .file octets) =>
    match fileText? octets with
    | none => .error (.breakdown .notUtf8)
    | some text => ofText w.deepest path place text

/-- The settings for commands in a workspace. -/
def load (w : Workspace) : Except Obstacle Settings :=
  match find? w with
  | .error o => .error o
  | .ok none => .ok standard
  | .ok (some path) => loadFrom w path

end Tweaks.Settings
