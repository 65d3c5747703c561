import Tweaks.Command.Options
import Tweaks.Files
import Tweaks.Selection

/-!
# Command lines

What the words of a command line ask for: a command with its options.
-/

namespace Tweaks

/-- What is to be compiled: names of scripts and categories if there are any, a
collection, a level and a direction. -/
structure Request where
  names : List String
  platform : Option Platform
  file : Option Path
  level : Option Level
  categories : List String
  direction : Direction
deriving DecidableEq, Repr, Inhabited

/-- What a command line asks for. -/
inductive Invocation where
  | version
  | help
  /-- Compiles scripts, without banners if `plain`, in JSON if `encoded`, into a
  file if there is a path. -/
  | build (request : Request) (plain encoded : Bool) (output : Option Path)
  /-- Compiles and executes scripts, without a question if `sure`. -/
  | run (request : Request) (sure : Bool)
  | list (platform : Option Platform) (file : Option Path) (encoded : Bool)
  | validate (paths : List Path)
deriving DecidableEq, Repr

/-- The selection that a request makes, with a level for those that name none. -/
def Request.selection (r : Request) (usual : Option Level) : Selection :=
  ⟨if r.names.isEmpty then none else some r.names,
    if r.categories.isEmpty then none else some r.categories,
    r.level.or usual, r.direction⟩

namespace Invocation

open Command

/-! ## Options -/

/-- Asks for the usage of a command. -/
def helpSwitch : Switch := ⟨none, "help", false⟩

/-- The options before the name of a command.  Progress notes, which one of them
asks for, are no part of what a command says. -/
def programSwitches : List Switch :=
  [⟨some 'V', "version", false⟩, ⟨some 'v', "verbose", false⟩, helpSwitch]

/-- The options that name a collection. -/
def collectionSwitches : List Switch :=
  [⟨none, "os", true⟩, ⟨some 'f', "file", true⟩, helpSwitch]

/-- The options that select scripts of a collection. -/
def selectionSwitches : List Switch :=
  collectionSwitches ++
    [⟨some 'l', "level", true⟩, ⟨some 'c', "category", true⟩, ⟨none, "revert", false⟩]

/-- The option for a way of writing results. -/
def formatSwitch : Switch := ⟨none, "format", true⟩

/-- The options for building scripts. -/
def buildSwitches : List Switch :=
  selectionSwitches ++ [⟨none, "plain", false⟩, formatSwitch, ⟨some 'o', "output", true⟩]

/-- The options for executing scripts. -/
def runSwitches : List Switch := selectionSwitches ++ [⟨some 'y', "yes", false⟩]

/-- The options for listing scripts. -/
def listSwitches : List Switch := collectionSwitches ++ [formatSwitch]

/-! ## Values -/

/-- A value among a few. -/
def choice {α : Type} (s : Sorted) (name : String) (read : String → Option α) :
    Except LineError (Option α) :=
  match s.value? name with
  | none => .ok none
  | some text =>
    match read text with
    | some value => .ok (some value)
    | none => .error .misused

/-- Whether results are to be in JSON, and not in the usual form. -/
def isEncoded (s : Sorted) (usual : String) : Except LineError Bool := do
  let encoded ← choice s "format" fun text =>
    if text = usual then some false else if text = "json" then some true else none
  return encoded.getD false

/-- A path. -/
def toPath (text : String) : Except LineError Path :=
  let path := Path.ofText text
  if Files.isUsable path then .ok path else .error .unusablePath

/-- The path that an option gives. -/
def pathOption (s : Sorted) (name : String) : Except LineError (Option Path) :=
  match s.value? name with
  | none => .ok none
  | some text => (toPath text).map some

/-- What is to be compiled. -/
def request (s : Sorted) : Except LineError Request := do
  let platform ← choice s "os" Platform.ofName?
  let level ← choice s "level" Level.ofName?
  let file ← pathOption s "file"
  return ⟨s.operands, platform, file, level, s.values "category",
    if s.has "revert" then .revert else .forward⟩

/-! ## Commands -/

/-- Building scripts. -/
def toBuild (s : Sorted) : Except LineError Invocation := do
  let encoded ← isEncoded s "text"
  let request ← request s
  let output ← pathOption s "output"
  return .build request (s.has "plain") encoded output

/-- Executing scripts. -/
def toRun (s : Sorted) : Except LineError Invocation := do
  let request ← request s
  return .run request (s.has "yes")

/-- Listing scripts. -/
def toList (s : Sorted) : Except LineError Invocation := do
  let encoded ← isEncoded s "table"
  let request ← request s
  if s.operands.isEmpty then .ok (.list request.platform request.file encoded)
  else .error .misused

/-- Checking collections. -/
def toValidate (s : Sorted) : Except LineError Invocation := do
  let paths ← s.operands.mapM toPath
  if paths.isEmpty then .error .misused else .ok (.validate paths)

/-- A command with its words, unless they ask for its usage. -/
def command (switches : List Switch) (build : Sorted → Except LineError Invocation)
    (words : List String) : Except LineError Invocation := do
  let s ← sort switches true words
  if s.has "help" then .ok .help else build s

/-- What is asked for before the name of a command, if anything is. -/
def early? (s : Sorted) : Option Invocation :=
  s.options.findSome? fun (name, _) =>
    if name = "version" then some .version else if name = "help" then some .help else none

/-- What follows a name that is none of a command's.  Words with dashes are looked
at once more, since they may ask for what needs no command. -/
def noCommand (words : List String) : Except LineError Invocation := do
  match early? (← sort programSwitches false words) with
  | some invocation => .ok invocation
  | none => .error .misused

/-- What words ask for. -/
def parse (words : List String) : Except LineError Invocation := do
  let s ← sort programSwitches false words
  match early? s, s.operands with
  | some invocation, _ => .ok invocation
  | none, [] => .error .misused
  | none, name :: rest =>
    if name = "build" then command buildSwitches toBuild rest
    else if name = "run" then command runSwitches toRun rest
    else if name = "list" then command listSwitches toList rest
    else if name = "validate" then command [helpSwitch] toValidate rest
    else noCommand (name :: rest)

end Invocation

end Tweaks
