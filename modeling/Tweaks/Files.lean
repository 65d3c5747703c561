import Tweaks.Path
import Tweaks.Text.HalfPair
import Tweaks.Text.Octets

/-!
# Files and folders

A tree of folders and files, each at a place: the names that lead to it from the
root.  The module follows paths through the tree, reads files, and makes folders.

Main results:

- `octetCount_append`: texts one behind the other take the octets of both.
- `follow_nil`: no name leads nowhere.
-/

namespace Tweaks

-- Sums of whole numbers start with the literal zero.
attribute [local instance (5000)] Zero.ofOfNat0

/-- The names that lead from the root to a folder or file. -/
abbrev Place := List String

/-- What lies at a place. -/
inductive Node where
  | folder
  | file (octets : List UInt8)
deriving DecidableEq, Repr, Inhabited

/-- Why a path leads to no file or folder, or to none of the kind that is needed. -/
inductive FileError where
  | missing
  /-- A file stands where the way goes on. -/
  | notFolder
  | isFolder
  /-- A file stands where a folder is to be made. -/
  | inTheWay
  | nameTooLong
  /-- A name holds a null character. -/
  | unusableName
  /-- A name holds a character that stands for nothing by itself. -/
  | notEncodable
deriving DecidableEq, Repr, Inhabited

/-- The words for an error. -/
def FileError.message : FileError → String
  | missing => "No such file or directory"
  | notFolder => "Not a directory"
  | isFolder => "Is a directory"
  | inTheWay => "File exists"
  | nameTooLong => "File name too long"
  | unusableName => "embedded null byte"
  | notEncodable => "surrogates not allowed"

/-- Folders and files by their places.  Folders above them need no mention. -/
structure Files where
  nodes : List (Place × Node)
deriving Repr, Inhabited

namespace Files

/-- What lies at a place, if anything does. -/
def node? (f : Files) (place : Place) : Option Node :=
  if place.isEmpty then some .folder
  else match f.nodes.lookup place with
    | some node => some node
    | none => if f.nodes.any fun (other, _) => place.isPrefixOf other then some .folder else none

/-- The files with one more node, which hides another one at its place. -/
def insert (f : Files) (place : Place) (node : Node) : Files := ⟨(place, node) :: f.nodes⟩

/-- How many octets a character takes in a path: those of UTF-8, but a half of a pair takes the
one octet that it stands for. -/
def octetsOf (c : Char) : Nat :=
  if (Text.halfNumber? c).isSome then 1 else c.utf8Size

/-- How many octets a text takes in a path. -/
def octetCount (s : String) : Nat :=
  (s.toList.map octetsOf).sum

/-- Texts one behind the other take the octets of both. -/
theorem octetCount_append (s t : String) :
    octetCount (s ++ t) = octetCount s + octetCount t := by
  simp [octetCount]

/-- The most octets that a name may have. -/
def longestName : Nat := 255

/-- Follows names from a folder to what lies behind them. -/
def follow (f : Files) (folder : Place) : List String → Except FileError (Place × Node)
  | [] => .ok (folder, .folder)
  | name :: rest =>
    if name = ".." then follow f folder.dropLast rest
    else if longestName < octetCount name then .error .nameTooLong
    else match f.node? (folder ++ [name]) with
      | none => .error .missing
      | some .folder => follow f (folder ++ [name]) rest
      | some (.file octets) =>
        if rest.isEmpty then .ok (folder ++ [name], .file octets) else .error .notFolder

/-- The places that names lead past, if nothing is missing on the way. -/
def trail (folder : Place) : List String → List Place
  | [] => []
  | name :: rest =>
    let place := if name = ".." then folder.dropLast else folder ++ [name]
    place :: trail place rest

/-- The number of octets from which on a path is too long. -/
def tooLong : Nat := 4096

/-- Whether a character can be written into a path: all but those that stand for a half of a
pair, of which some halves stand for octets again. -/
def isEncodable (c : Char) : Bool :=
  (Text.halfNumber? c).all fun n => 0xdc80 ≤ n && n ≤ 0xdcff

/-- Whether a path has no null character. -/
def isUsable (path : Path) : Bool :=
  path.names.all fun name => !name.toList.contains '\x00'

/-- What keeps a path from being followed at all, if anything does. -/
def obstruction? (path : Path) : Option FileError :=
  if !path.text.toList.all isEncodable then some .notEncodable
  else if !isUsable path then some .unusableName
  else if tooLong ≤ octetCount path.text then some .nameTooLong
  else none

/-- The folder in which the way of a path starts, seen from a working folder. -/
def startPlace (folder : Place) (path : Path) : Place :=
  match path.start with
  | .here => folder
  | _ => []

/-- What a path leads to, seen from a working folder. -/
def look (f : Files) (folder : Place) (path : Path) : Except FileError (Place × Node) :=
  match obstruction? path with
  | none => f.follow (startPlace folder path) path.names
  | some e => .error e

/-- Whether a path leads to anything.  Nothing can be looked for whose name is too long. -/
def present (f : Files) (folder : Place) (path : Path) : Except FileError Bool :=
  match f.look folder path with
  | .ok _ => .ok true
  | .error .nameTooLong => .error .nameTooLong
  | .error _ => .ok false

/-- The octets of the file that a path leads to. -/
def read (f : Files) (folder : Place) (path : Path) : Except FileError (List UInt8) := do
  match ← f.look folder path with
  | (_, .folder) => .error .isFolder
  | (_, .file octets) => .ok octets

/-! ## Making -/

/-- The folder that names lead to. -/
def followFolder (f : Files) (folder : Place) (names : List String) : Except FileError Place := do
  match ← f.follow folder names with
  | (place, .folder) => .ok place
  | (_, .file _) => .error .notFolder

/-- Makes the folder at the end of the names, unless it is there. -/
def makeFolder (f : Files) (folder : Place) (names : List String) : Except FileError Files :=
  match names.getLast? with
  | none => .ok f
  | some name => do
    let above ← f.followFolder folder names.dropLast
    if name = ".." then .ok f
    else if longestName < octetCount name then .error .nameTooLong
    else match f.node? (above ++ [name]) with
      | none => .ok (f.insert (above ++ [name]) .folder)
      | some .folder => .ok f
      | some (.file _) => .error .inTheWay

/-- Makes the folder at the end of the names, and those on the way that are
missing. -/
def makeFolders (f : Files) (folder : Place) (names : List String) : Except FileError Files :=
  match f.makeFolder folder names with
  | .error .missing =>
    if _h : names = [] then .error .missing
    else
      match makeFolders f folder names.dropLast with
      | .error e => .error e
      | .ok f => f.makeFolder folder names
  | result => result
termination_by names.length
decreasing_by
  have := List.length_pos_iff.2 _h
  simp; omega

/-- The place for a file to be written, once the folders on the way are made. -/
def target (f : Files) (folder : Place) (path : Path) : Except FileError Place := do
  let start := startPlace folder path
  let parent : Path := ⟨path.start, path.names.dropLast⟩
  match obstruction? parent with
  | some e => .error e
  | none =>
    let f ← f.makeFolders start parent.names
    let above ← f.followFolder start parent.names
    match obstruction? path, path.names.getLast? with
    | some e, _ => .error e
    | none, none => .error .isFolder
    | none, some name =>
      if name = ".." then .error .isFolder
      else if longestName < octetCount name then .error .nameTooLong
      else match f.node? (above ++ [name]) with
        | some .folder => .error .isFolder
        | _ => .ok (above ++ [name])

/-! ## Small facts -/

/-- No name leads nowhere. -/
@[simp]
theorem follow_nil (f : Files) (folder : Place) : f.follow folder [] = .ok (folder, .folder) :=
  rfl

end Files

/-- The text of a file: its octets read as UTF-8, with every break as a line
feed. -/
def fileText? (octets : List UInt8) : Option String :=
  (Text.decodeOctets? (octets.map UInt8.toNat)).map fun text =>
    String.ofList (Text.unifyBreaks text)

end Tweaks
