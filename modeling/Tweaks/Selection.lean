import Tweaks.Collection

/-!
# Selections

Which scripts of a collection are compiled, and in which direction.

Main results:

- `everything_matchesScript`: a selection without restrictions takes in every script.
-/

namespace Tweaks

/-- Whether tweaks are applied or undone. -/
inductive Direction where
  | forward
  | revert
deriving DecidableEq, Repr, Inhabited

namespace Direction

/-- The name of a direction. -/
def name : Direction → String
  | forward => "forward"
  | revert => "revert"

/-- The direction of that name. -/
def ofName? (name : String) : Option Direction :=
  if name = "forward" then some forward
  else if name = "revert" then some revert
  else none

end Direction

/-- Which scripts to compile.  A restriction that is not given takes in every
script; one without names takes in none. -/
structure Selection where
  names : Option (List String)
  categories : Option (List String)
  level : Option Level
  direction : Direction
deriving DecidableEq, Repr, Inhabited

namespace Selection

/-- Every script, applied. -/
def all : Selection := ⟨none, none, none, .forward⟩

/-- Every script, in the given direction. -/
def everything (direction : Direction) : Selection := ⟨none, none, none, direction⟩

/-- Whether a script by its name passes. -/
def takesName (s : Selection) (name : String) : Bool :=
  match s.names with
  | none => true
  | some names => names.contains name

/-- Whether a script by the categories around it passes. -/
def takesTrail (s : Selection) (trail : List String) : Bool :=
  match s.categories with
  | none => true
  | some categories => trail.any categories.contains

/-- Whether a script by its level passes. -/
def takesLevel (s : Selection) (recommend : Option Level) : Bool :=
  match s.level with
  | none => true
  | some level => level.includes recommend

/-- Whether a script of that name and level, with these categories around it, is
selected. -/
def takes (s : Selection) (trail : List String) (name : String) (recommend : Option Level) :
    Bool :=
  s.takesName name && s.takesTrail trail && s.takesLevel recommend

/-- Whether a script, with the categories around it, is selected. -/
def matchesScript (s : Selection) (trail : List String) (script : Script) : Bool :=
  s.takes trail script.name script.recommend

/-- A selection without restrictions takes in every script. -/
@[simp]
theorem everything_matchesScript (direction : Direction) (trail : List String)
    (script : Script) : (everything direction).matchesScript trail script = true := rfl

end Selection

end Tweaks
