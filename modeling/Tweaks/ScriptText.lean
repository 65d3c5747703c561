import Tweaks.Assembly
import Tweaks.Problem
import Tweaks.Settings

/-!
# Script texts

The complete text of a script: what the collection puts around it, with the
settings' values for global variables, and the fragments in the style of the
platform.
-/

namespace Tweaks.ScriptText

/-- The global variables, at a time in seconds since the start of 1970. -/
def globals (s : Settings) (now : Int) : Globals :=
  [("homepage", s.homepage), ("version", s.version), ("date", (Moment.ofSeconds now).mailText)]

/-- The texts before and behind the fragments. -/
def frame (c : Collection) (s : Settings) (now : Int) : String × String :=
  match c.scripting with
  | none => (c.os.firstLine, "")
  | some scripting =>
    (Assembly.fillGlobals (globals s now) scripting.startCode,
      Assembly.fillGlobals (globals s now) scripting.endCode)

/-- The style of scripts for a platform. -/
def style (platform : Platform) (s : Settings) (plain : Bool) :
    Except Assembly.StyleError Assembly.Style :=
  let comment := if plain || !s.banner then none else some platform.commentMark
  match s.bannerSource.filter fun source => !source.isEmpty with
  | none => .ok (Assembly.Style.standard comment platform.lineEnding)
  | some source => Assembly.Style.ofSource comment platform.lineEnding source

/-- What stands in the way of a script with a banner that does not work. -/
def obstacle : Assembly.StyleError → Obstacle
  | .syntactic => .complaint .banner
  | .banner .missing | .banner .unknownUse | .banner .unfit => .complaint .banner
  | .banner fault => .breakdown (.banner fault)

/-- The complete script of compiled fragments. -/
def build (c : Collection) (fragments : List Fragment) (s : Settings) (now : Int)
    (plain : Bool) : Except Obstacle String :=
  let (header, footer) := frame c s now
  ((style c.os s plain).bind fun style =>
    Assembly.assemble style header footer fragments).mapError obstacle

end Tweaks.ScriptText
