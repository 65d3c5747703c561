/-!
# Recommendation levels

How strongly a script is recommended.  A script may have no level; selecting at
a level takes in the scripts of that level, of the milder one, and those
without.

Main results:

- `ofName?_name`, `ofName?_eq_some`: a level is read back from its name.
- `strict_includes`: the strict level passes all.
-/

namespace Tweaks

/-- A recommendation level. -/
inductive Level where
  | standard
  | strict
deriving DecidableEq, Repr, Inhabited

namespace Level

/-- The name of a level in documents and on the command line. -/
def name : Level → String
  | standard => "standard"
  | strict => "strict"

/-- The level of that name. -/
def ofName? (name : String) : Option Level :=
  if name = "standard" then some standard
  else if name = "strict" then some strict
  else none

/-- A level is read back from its name. -/
@[simp]
theorem ofName?_name (level : Level) : ofName? level.name = some level := by
  cases level <;> rfl

/-- A text names a level exactly where it is the level's name. -/
theorem ofName?_eq_some {name : String} {level : Level} :
    ofName? name = some level ↔ name = level.name := by
  constructor
  · intro h
    rw [ofName?] at h
    split at h
    · next hname => cases h; exact hname
    · split at h
      · next hname => cases h; exact hname
      · cases h
  · rintro rfl
    exact ofName?_name level

/-- The place of a level, the milder one first. -/
def rank : Level → Nat
  | standard => 1
  | strict => 2

/-- Whether selecting at this level takes in a script of the given level. -/
def includes (level : Level) : Option Level → Bool
  | none => true
  | some other => other.rank ≤ level.rank

/-- The strict level passes all. -/
@[simp]
theorem strict_includes (other : Option Level) : strict.includes other = true := by
  rcases other with _ | _ | _ <;> rfl

end Level

end Tweaks
