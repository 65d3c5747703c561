import Tweaks.Command.Invocation
import Tweaks.Command.Report
import Tweaks.Pipe
import Tweaks.ScriptText
import Tweaks.Settings.Locate

/-!
# Opening and compiling collections

What the commands have in common: finding the settings and the collection that is
meant, and compiling what a request selects.
-/

namespace Tweaks

/-- A collection that a command works on, with the settings, and with what is to
be said about it first. -/
structure Opened where
  settings : Settings
  collection : Collection
  notes : String

namespace Opened

/-- The platform that is meant. -/
def platform (w : Workspace) (s : Settings) (named : Option Platform) :
    Except Obstacle Platform :=
  match named.or s.platform with
  | some platform => .ok platform
  | none =>
    match Platform.ofSystem? w.system with
    | some platform => .ok platform
    | none => .error (.complaint (.unsupported (Platform.unsupportedMessage w.system)))

/-- The path of the collection that is meant. -/
def path (w : Workspace) (s : Settings) (named : Option Platform) (file : Option Path) :
    Except Obstacle Path :=
  match file with
  | some path => .ok path
  | none => (platform w s named).map (s.collectionPath w.folderPath)

/-- The collection in a file. -/
def load (w : Workspace) (path : Path) : Except Obstacle Collection :=
  match w.read path with
  | .error .unusableName => .error (.breakdown (.file .unusableName))
  | .error .notEncodable => .error (.breakdown (.file .notEncodable))
  | .error e => .error (.problem (.load path.text e.message))
  | .ok octets =>
    match fileText? octets with
    | none => .error (.breakdown .notUtf8)
    | some text => Collection.parse w.deepest path.text text

/-- What is to be said about a collection where a platform is named: that it is
meant for another one, if it is. -/
def platformNote (path : Path) (written : Platform) (named : Option Platform) : String :=
  match named with
  | none => ""
  | some platform =>
    if written = platform then ""
    else Text.withoutHalves <| Console.warning (path.text ++ " is written for " ++
      written.name ++ ", not " ++ platform.name)

/-- The collection that is meant. -/
def find (w : Workspace) (named : Option Platform) (file : Option Path) :
    Except Obstacle Opened := do
  let settings ← Settings.load w
  let path ← path w settings named file
  let collection ← load w path
  return ⟨settings, collection, platformNote path collection.os named⟩

/-- What a request selects, compiled. -/
def fragments (o : Opened) (r : Request) : Except Obstacle (List Fragment) :=
  (Compilation.compile o.collection Pipe.standard (r.selection o.settings.level)).mapError
    Obstacle.ofCompileError

/-- What a request selects, compiled, and the complete script of it. -/
def script (w : Workspace) (o : Opened) (r : Request) (plain : Bool) :
    Except Obstacle (List Fragment × String) := do
  let fragments ← o.fragments r
  let text ← ScriptText.build o.collection fragments o.settings w.now plain
  return (fragments, text)

end Opened

end Tweaks
