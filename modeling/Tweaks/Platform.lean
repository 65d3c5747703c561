/-!
# Platforms

The operating systems that collections are written for, and what their scripts
look like.

Main results:

- `ofName?_name`, `ofName?_eq_some`: a platform is read back from its name.
-/

namespace Tweaks

/-- An operating system. -/
inductive Platform where
  | macos
  | linux
  | windows
deriving DecidableEq, Repr, Inhabited

namespace Platform

/-- The name of a platform in documents and on the command line. -/
def name : Platform → String
  | macos => "macos"
  | linux => "linux"
  | windows => "windows"

/-- The platform of that name. -/
def ofName? (name : String) : Option Platform :=
  if name = "macos" then some macos
  else if name = "linux" then some linux
  else if name = "windows" then some windows
  else none

/-- A platform is read back from its name. -/
@[simp]
theorem ofName?_name (platform : Platform) : ofName? platform.name = some platform := by
  cases platform <;> rfl

/-- A text names a platform exactly where it is the platform's name. -/
theorem ofName?_eq_some {name : String} {platform : Platform} :
    ofName? name = some platform ↔ name = platform.name := by
  constructor
  · intro h
    rw [ofName?] at h
    split at h
    · next hname => cases h; exact hname
    · split at h
      · next hname => cases h; exact hname
      · split at h
        · next hname => cases h; exact hname
        · cases h
  · rintro rfl
    exact ofName?_name platform

/-- The platform of a running system, by the name the system gives itself. -/
def ofSystem? (system : String) : Option Platform :=
  if system = "darwin" then some macos
  else if "linux".isPrefixOf system then some linux
  else if system = "win32" || system = "cygwin" then some windows
  else none

/-- The message for a running system that is none of the platforms. -/
def unsupportedMessage (system : String) : String :=
  "Unsupported operating system: " ++ system

/-- What starts a comment line. -/
def commentMark : Platform → String
  | windows => "::"
  | _ => "#"

/-- What ends a line. -/
def lineEnding : Platform → String
  | windows => "\r\n"
  | _ => "\n"

/-- The first line of a script for which the collection gives none. -/
def firstLine : Platform → String
  | windows => "@echo off"
  | _ => "#!/usr/bin/env bash"

/-- The extension of script files, without the dot. -/
def fileExtension : Platform → String
  | windows => "bat"
  | _ => "sh"

/-- The words of the command that runs a script file. -/
def interpreter : Platform → List String
  | windows => ["cmd.exe", "/c"]
  | _ => ["bash"]

end Platform

end Tweaks
