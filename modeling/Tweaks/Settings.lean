import Tweaks.Document
import Tweaks.Files
import Tweaks.Level
import Tweaks.Platform

/-!
# Settings

What a project settles for its commands: where collections lie, the platform and
the level that are meant where none is named, how scripts are written out, and
what runs them.  Settings are read from a mapping, in which every one may be
missing.
-/

namespace Tweaks

/-- What a project settles for its commands. -/
structure Settings where
  /-- The folder with a collection for each platform. -/
  collectionsFolder : Path
  platform : Option Platform
  level : Option Level
  /-- Whether scripts get banners. -/
  banner : Bool
  /-- The source of the banner, if it is not the usual one. -/
  bannerSource : Option String
  homepage : String
  version : String
  /-- The words of the command that runs scripts, if it is not the usual one. -/
  interpreter : Option (List String)
  /-- The folder to which the settings belong. -/
  root : Option Path
deriving DecidableEq, Repr

namespace Settings

/-- The version of the program. -/
def programVersion : String := "0.1.0"

/-- How everything is where nothing is settled. -/
def standard : Settings :=
  ⟨Path.ofText "collections", none, none, true, none, "https://privacy.sexy",
    programVersion, none, none⟩

instance : Inhabited Settings := ⟨standard⟩

/-- The path of the collection for a platform, where commands work in the given
folder. -/
def collectionPath (s : Settings) (folder : Path) (platform : Platform) : Path :=
  ((s.root.getD folder).append s.collectionsFolder).child (platform.name ++ ".yaml")

/-! ## Reading -/

/-- A text, which octets may spell. -/
def toText? : Document → Option String
  | .text value => some value
  | .bytes value => (Text.decodeOctets? (value.map UInt8.toNat)).map String.ofList
  | _ => none

/-- A path, which a text spells. -/
def toPath? : Document → Option Path
  | .text value => some (Path.ofText value)
  | _ => none

/-- The words for false, in small letters. -/
def falseWords : List String := ["0", "f", "n", "no", "off", "false"]

/-- The words for true, in small letters. -/
def trueWords : List String := ["1", "t", "y", "yes", "on", "true"]

/-- True or false: as a truth value, as the number one or zero, or in a word. -/
def toSwitch? : Document → Option Bool
  | .bool value => some value
  | .int value => if value = 0 then some false else if value = 1 then some true else none
  | .float value => if value == 0.0 then some false else if value == 1.0 then some true else none
  | other => (toText? other).bind fun word =>
    if falseWords.contains word.toLower then some false
    else if trueWords.contains word.toLower then some true
    else none

/-- Texts in a list or a set. -/
def toTexts? : Document → Option (List String)
  | .list items => items.mapM toText?
  | .set items => items.mapM toText?
  | _ => none

/-- Null, or what is read otherwise. -/
def orNull {α : Type} (read : Document → Option α) : Document → Option (Option α)
  | .null => some none
  | other => (read other).map some

/-- What is settled under a name, or what is usual where nothing is. -/
def field {α : Type} (entries : Entries) (name : String) (usual : α)
    (read : Document → Option α) : Option α :=
  match entries.get? name with
  | none => some usual
  | some value => read value

/-- The names that stand beside nothing. -/
def rejectedNames (fields : List (String × Bool)) : List String :=
  (fields.filter fun (_, isRead) => !isRead).map Prod.fst

/-- The settings in a mapping, or the names under which it has wrong values, in
ascending order. -/
def ofEntries (entries : Entries) : Except (List String) Settings :=
  let banner := field entries "banner" true toSwitch?
  let bannerSource := field entries "banner_template" none (orNull toText?)
  let folder := field entries "collections_dir" standard.collectionsFolder toPath?
  let homepage := field entries "homepage" standard.homepage toText?
  let interpreter := field entries "interpreter" none (orNull toTexts?)
  let level := field entries "level" none (orNull fun d => (toText? d).bind Level.ofName?)
  let platform := field entries "os" none (orNull fun d => (toText? d).bind Platform.ofName?)
  let root := field entries "root" none (orNull toPath?)
  let version := field entries "version" standard.version toText?
  match folder, platform, level, banner, bannerSource, homepage, version, interpreter, root with
  | some folder, some platform, some level, some banner, some bannerSource, some homepage,
    some version, some interpreter, some root =>
    .ok ⟨folder, platform, level, banner, bannerSource, homepage, version, interpreter, root⟩
  | _, _, _, _, _, _, _, _, _ =>
    .error (rejectedNames [("banner", banner.isSome), ("banner_template", bannerSource.isSome),
      ("collections_dir", folder.isSome), ("homepage", homepage.isSome),
      ("interpreter", interpreter.isSome), ("level", level.isSome), ("os", platform.isSome),
      ("root", root.isSome), ("version", version.isSome)])

end Settings

end Tweaks
