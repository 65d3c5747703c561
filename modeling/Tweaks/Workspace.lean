import Tweaks.Files

/-!
# Workspaces

All that a command can see: files, the working folder, the variables of the
environment, the name of the running system, the clock, what is typed in answer to
questions, what comes of having scripts executed, and how deep a reader of YAML may go.

Main results:

- `ancestors_append`: the folders around a place begin with the place.
-/

namespace Tweaks

/-- A script that is executed: the words of the command that runs it, the
extension of the file it is put into, and its text. -/
structure Execution where
  command : List String
  extension : String
  script : String
deriving DecidableEq, Repr, Inhabited

/-- What the names of files with scripts to be executed begin with. -/
def Execution.nameStart : String := "twl_"

/-- The path of the folder for files with scripts to be executed. -/
def Execution.folder : String := "/tmp/"

/-- Whether a file of a random name with the extension can be made.  A slash in the extension
stands for a folder that is missing, unless nothing else follows. -/
def Execution.check (extension : String) : Except FileError Unit :=
  let own := extension.toList.takeWhile (· ≠ '/')
  let behind := extension.toList.dropWhile (· ≠ '/')
  let length := nameStart.length + 9
  if !extension.toList.all Files.isEncodable then .error .notEncodable
  else if extension.toList.contains '\x00' then .error .unusableName
  else if Files.tooLong ≤ folder.length + length + Files.octetCount extension then
    .error .nameTooLong
  else if !behind.isEmpty && behind.all (· = '/') then .error .isFolder
  else if Files.longestName < length + Files.octetCount (String.ofList own) then
    .error .nameTooLong
  else if !behind.isEmpty then .error .missing
  else .ok ()

/-- Why the system does not execute a script, or cannot remove its file. -/
inductive SystemFault where
  /-- A program or a file that is not there. -/
  | missing
  /-- Something that is not permitted. -/
  | forbidden
  /-- A word of a command that holds a null character. -/
  | unusableWord
  /-- A word of a command that holds a character that stands for nothing by itself. -/
  | notEncodable
  /-- Anything else that the system refuses: a file for which there is no room, a program that
  is none, or too many words. -/
  | refused
deriving DecidableEq, Repr, Inhabited

/-- What comes of having the system execute a script: its file is made, its command started,
its end waited for, and the file removed. -/
inductive Course where
  /-- The file is not made or the command not started, so nothing is executed. -/
  | unstarted (fault : SystemFault)
  /-- The script is executed and ends with a status. -/
  | ended (status : Int)
  /-- The script is executed, but its file cannot be removed behind it. -/
  | stranded (fault : SystemFault)
deriving DecidableEq, Repr, Inhabited

/-- What a command can see. -/
structure Workspace where
  files : Files
  /-- The place of the working folder. -/
  folder : Place
  environment : List (String × String)
  /-- The name that the running system gives itself. -/
  system : String
  /-- Seconds since the start of 1970, by universal time. -/
  now : Int
  /-- What is typed, line by line. -/
  answers : List String
  /-- What comes of having a script executed, if its file can have its name and its text. -/
  course : Execution → Course
  /-- The most collections that may lie one within the other in a text of YAML. -/
  deepest : Nat

namespace Workspace

/-- What a path leads to. -/
def look (w : Workspace) (path : Path) : Except FileError (Place × Node) :=
  w.files.look w.folder path

/-- Whether a path leads to anything.  Nothing can be looked for whose name is too long. -/
def present (w : Workspace) (path : Path) : Except FileError Bool :=
  w.files.present w.folder path

/-- The octets of the file that a path leads to. -/
def read (w : Workspace) (path : Path) : Except FileError (List UInt8) :=
  w.files.read w.folder path

/-- The path of the working folder. -/
def folderPath (w : Workspace) : Path := Path.ofRoot w.folder

/-- A variable's value, unless it is empty. -/
def value? (w : Workspace) (name : String) : Option String :=
  (w.environment.lookup name).filter fun value => !value.isEmpty

/-- A place and the folders around it, from the inside out. -/
def ancestors (place : Place) : List Place :=
  if _h : place = [] then [[]] else place :: ancestors place.dropLast
termination_by place.length
decreasing_by
  have := List.length_pos_iff.2 _h
  simp; omega

@[simp]
theorem ancestors_nil : ancestors [] = [[]] := by
  simp [ancestors]

/-- The folders around a place begin with the place. -/
theorem ancestors_append (place : Place) (name : String) :
    ancestors (place ++ [name]) = (place ++ [name]) :: ancestors place := by
  rw [ancestors]
  simp

end Workspace

end Tweaks
