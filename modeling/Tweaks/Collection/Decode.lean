import Tweaks.Collection
import Tweaks.Collection.Flaw
import Tweaks.Template.Tag
import Tweaks.Text.Blank

/-!
# Collections from documents

Reads a collection from a decoded document in one pass, and stops at the first
flaw.  Fields that a collection does not know are ignored.

Main results:

- `firstRepeat?_eq_none`: no repeat is found exactly where the names are
  distinct.
-/

namespace Tweaks.Decode

/-- A decoded part of a document, or the reason why there is none. -/
abbrev Result := Except Rejection

/-- A flaw at a place. -/
def flaw {α : Type} (location : Location) (f : Flaw) : Result α :=
  .error (.flawed location f)

/-! ## Plain values -/

/-- The entries of a mapping. -/
def mapping (location : Location) (d : Document) : Result Entries :=
  match d.entries? with
  | some entries => .ok entries
  | none => flaw location (.expectedMapping d.kind)

/-- The items of a list. -/
def list (location : Location) (d : Document) : Result (List Document) :=
  match d.items? with
  | some items => .ok items
  | none => flaw location (.expectedList d.kind)

/-- Any text. -/
def anyText (location : Location) (d : Document) : Result String :=
  match d with
  | .text value => .ok value
  | other => flaw location (.expectedText other.kind)

/-- A text that does not consist of blanks. -/
def filledText (location : Location) (d : Document) : Result String := do
  let value ← anyText location d
  if Text.isBlankText value then flaw location .blank else .ok value

/-- The value of a field that has to be there. -/
def required (location : Location) (entries : Entries) (name : String) : Result Document :=
  match entries.present? name with
  | some value => .ok value
  | none => flaw (location.key name) .missing

/-- The text of a field that has to be there and to say something. -/
def requiredName (location : Location) (entries : Entries) (name : String) : Result String := do
  let value ← required location entries name
  filledText (location.key name) value

/-- The text of a field that has to be there. -/
def requiredText (location : Location) (entries : Entries) (name : String) : Result String := do
  let value ← required location entries name
  anyText (location.key name) value

/-- The text of a field, if it is there. -/
def optionalText (location : Location) (entries : Entries) (name : String) :
    Result (Option String) :=
  match entries.present? name with
  | some value => (anyText (location.key name) value).map some
  | none => .ok none

/-- A text, unless a number in it is too long to be written. -/
def written (text : Option String) : Result String :=
  match text with
  | some value => .ok value
  | none => .error .tooLong

/-- A scalar as the text it stands for. -/
def scalar (location : Location) (d : Document) : Result String :=
  match d with
  | .null => .ok ""
  | .bool value => .ok (if value then "true" else "false")
  | .int _ | .float _ | .text _ => written d.plain?
  | other => flaw location (.expectedScalar other.kind)

/-- Each item of a list, decoded at its place. -/
def each {α : Type} (decode : Location → Document → Result α) (location : Location) :
    (i : Nat) → List Document → Result (List α)
  | _, [] => .ok []
  | i, d :: items => do
    let first ← decode (location.item i) d
    let rest ← each decode location (i + 1) items
    return first :: rest

/-- The documentation of a script or category: nothing, a text, or a list. -/
def docs (location : Location) (d : Option Document) : Result (List String) :=
  match d with
  | none => .ok []
  | some (.text value) => .ok [value]
  | some other => do
    let items ← list location other
    each filledText location 0 items

/-- A template. -/
def template (location : Location) (source : String) : Result Template :=
  match Template.parse source with
  | .ok t => .ok t
  | .error e => flaw location (.template e)

/-- A template, if there is a source. -/
def optionalTemplate (location : Location) : Option String → Result (Option Template)
  | none => .ok none
  | some source => (template location source).map some

/-- The first of the named places whose name stands before it already. -/
def firstRepeat? {α : Type} : (seen : List String) → List (α × String) → Option (α × String)
  | _, [] => none
  | seen, (place, name) :: rest =>
    if seen.contains name then some (place, name) else firstRepeat? (name :: seen) rest

/-- No repeat is found exactly where the names are distinct, and new. -/
theorem firstRepeat?_eq_none {α : Type} {seen : List String} {named : List (α × String)} :
    firstRepeat? seen named = none ↔
      (named.map Prod.snd).Nodup ∧ ∀ name ∈ named.map Prod.snd, name ∉ seen := by
  induction named generalizing seen with
  | nil => simp [firstRepeat?]
  | cons first named ih =>
    obtain ⟨place, name⟩ := first
    rw [firstRepeat?]
    by_cases hs : name ∈ seen
    · simp [hs]
    · simp only [List.contains_eq_mem, hs, decide_false, Bool.false_eq_true, ↓reduceIte, ih,
        List.map_cons, List.nodup_cons, List.mem_cons, forall_eq_or_imp, not_false_eq_true,
        true_and, not_or]
      constructor
      · rintro ⟨hnd, hnot⟩
        exact ⟨⟨fun hmem => (hnot _ hmem).1 rfl, hnd⟩, fun n hn => (hnot n hn).2⟩
      · rintro ⟨⟨hnot, hnd⟩, hseen⟩
        exact ⟨hnd, fun n hn => ⟨fun heq => hnot (heq ▸ hn), hseen n hn⟩⟩

/-! ## Calls -/

/-- Arguments with one more; a name that is there already gets the new text. -/
def setArgument (arguments : List (String × String)) (name value : String) :
    List (String × String) :=
  match arguments with
  | [] => [(name, value)]
  | (other, old) :: rest =>
    if other = name then (name, value) :: rest else (other, old) :: setArgument rest name value

/-- The arguments of a call, behind those read before. -/
def arguments (location : Location) (read : List (String × String)) :
    Entries → Result (List (String × String))
  | [] => .ok read
  | (key, value) :: entries => do
    let name ← written key.plain?
    let text ← scalar (location.key name) value
    arguments location (setArgument read name text) entries

/-- A field's value, unless it is missing or counts as nothing. -/
def filled? (entries : Entries) (name : String) : Option Document :=
  (entries.get? name).filter fun value => !value.isFalsy

/-- A call of a function. -/
def call (location : Location) (d : Document) : Result Call := do
  let entries ← mapping location d
  let function ← requiredName location entries "function"
  let place := location.key "parameters"
  let given ← (match filled? entries "parameters" with
    | some value => mapping place value
    | none => .ok [])
  let texts ← arguments place [] given
  return ⟨function, texts⟩

/-- The calls of a script or function: one call, or a list of them. -/
def calls (location : Location) (d : Document) : Result (List Call) :=
  match d.entries? with
  | some _ => (call location d).map fun c => [c]
  | none => do
    let items ← list location d
    if items.isEmpty then flaw location .noCalls
    else each call location 0 items

/-- The places of the calls that `calls` reads. -/
def callPlace (location : Location) (d : Document) (i : Nat) : Location :=
  match d.entries? with
  | some _ => location
  | none => location.item i

/-- Exactly one of code and calls, and no code that undoes calls: the texts of
both codes, and the calls' document. -/
def body (location : Location) (owner : Owner) (entries : Entries) :
    Result (Option String × Option String × Option Document) := do
  let code ← optionalText location entries "code"
  let revertCode ← optionalText location entries "revertCode"
  let callee := entries.present? "call"
  match callee, code with
  | some _, some _ => flaw location (.codeAndCall owner)
  | none, none => flaw location (.neitherCodeNorCall owner)
  | _, _ =>
    if callee.isSome && revertCode.isSome then
      flaw (location.key "revertCode") (.revertCodeWithCall owner)
    else return (code, revertCode, callee)

/-- The calls, if there are any. -/
def optionalCalls (location : Location) : Option Document → Result (List Call)
  | none => .ok []
  | some d => calls location d

/-! ## Functions -/

/-- Whether a text may name a parameter: ASCII letters, digits and underscores,
at least one, with at most one line feed behind them. -/
def isParameterName (name : String) : Bool :=
  let chars := name.toList
  let word := if chars.getLast? = some '\n' then chars.dropLast else chars
  !word.isEmpty && word.all Template.isNameChar

/-- A parameter's mark of being optional; a parameter without it is not. -/
def optionalMark (location : Location) (entries : Entries) : Result Bool :=
  match entries.get? "optional" with
  | none => .ok false
  | some (.bool value) => .ok value
  | some _ => flaw (location.key "optional") .expectedBool

/-- A parameter's default value. -/
def defaultValue (location : Location) (entries : Entries) : Result (Option String) :=
  match entries.get? "default" with
  | none => .ok none
  | some value => (scalar (location.key "default") value).map some

/-- A declared parameter. -/
def parameter (location : Location) (d : Document) : Result Parameter := do
  let entries ← mapping location d
  let name ← requiredName location entries "name"
  if !isParameterName name then flaw (location.key "name") (.parameterName name)
  else
    let optional ← optionalMark location entries
    let value ← defaultValue location entries
    return ⟨name, optional || value.isSome, value⟩

/-- The parameters of a function, with distinct names. -/
def parameters (function : String) (location : Location) :
    (i : Nat) → (seen : List String) → List Document → Result (List Parameter)
  | _, _, [] => .ok []
  | i, seen, d :: items => do
    let first ← parameter (location.item i) d
    if seen.contains first.name then
      flaw ((location.item i).key "name") (.repeatedParameter first.name function)
    else
      let rest ← parameters function location (i + 1) (first.name :: seen) items
      return first :: rest

/-- Whether the arguments of a call are templates. -/
def checkArguments (location : Location) : List (String × String) → Result Unit
  | [] => .ok ()
  | (name, source) :: rest => do
    let _ ← template ((location.key "parameters").key name) source
    checkArguments location rest

/-- Whether the arguments of all calls are templates. -/
def checkCalls (place : Nat → Location) : (i : Nat) → List Call → Result Unit
  | _, [] => .ok ()
  | i, c :: rest => do
    checkArguments (place i) c.arguments
    checkCalls place (i + 1) rest

/-- A function. -/
def function (location : Location) (d : Document) : Result Function := do
  let entries ← mapping location d
  let name ← requiredName location entries "name"
  let place := location.key "parameters"
  let declared ← (match filled? entries "parameters" with
    | some value => list place value
    | none => .ok [])
  let params ← parameters name place 0 [] declared
  let (code, revertCode, callee) ← body location (.function name) entries
  let site := location.key "call"
  let called ← optionalCalls site callee
  checkCalls (callPlace site (callee.getD .null)) 0 called
  let code ← optionalTemplate (location.key "code") code
  let revertCode ← optionalTemplate (location.key "revertCode") revertCode
  return ⟨name, params, code, revertCode, called⟩

/-! ## Scripts and categories -/

/-- A recommendation level, if there is one. -/
def level (location : Location) : Option Document → Result (Option Level)
  | none => .ok none
  | some d =>
    let named := match d with
      | .text name => Level.ofName? name
      | _ => none
    match named with
    | some level => .ok (some level)
    | none => do flaw location (.unknownLevel (← written d.shown?))

/-- A script. -/
def script (location : Location) (d : Document) : Result Script := do
  let entries ← mapping location d
  let name ← requiredName location entries "name"
  let (code, revertCode, callee) ← body location (.script name) entries
  let recommend ← level (location.key "recommend") (entries.present? "recommend")
  let called ← optionalCalls (location.key "call") callee
  let documentation ← docs (location.key "docs") (entries.present? "docs")
  return ⟨name, code, revertCode, called, recommend, documentation⟩

/-- The names of the categories among the children, with their indices. -/
def categoryNames : (i : Nat) → Contents → List (Nat × String)
  | _, .empty => []
  | i, .script _ rest => categoryNames (i + 1) rest
  | i, .category name _ _ rest => (i, name) :: categoryNames (i + 1) rest

/-- Whether the categories of one place have distinct names. -/
def checkDistinct (location : Location) (named : List (Nat × String)) : Result Unit :=
  match firstRepeat? [] named with
  | none => .ok ()
  | some (i, name) => flaw ((location.item i).key "category") (.repeatedCategory name)

/-- The value of a field that has to be there is smaller than the mapping. -/
theorem sizeOf_lt_of_present? {d value : Document} {entries : Entries} {name : String}
    (h : d.entries? = some entries) (h' : entries.present? name = some value) :
    sizeOf value < sizeOf d := by
  have h1 := Document.sizeOf_lt_of_entries h
  have h2 := Entries.sizeOf_lt_of_get? (Entries.present?_eq_some.1 h').1
  omega

/-- The first item of a list is smaller than the list. -/
theorem sizeOf_first_lt (d : Document) (rest : List Document) : sizeOf d < sizeOf (d :: rest) := by
  rw [List.cons.sizeOf_spec]
  omega

/-- What follows the first item of a list is smaller than the list. -/
theorem sizeOf_rest_lt (d : Document) (rest : List Document) :
    sizeOf rest < sizeOf (d :: rest) := by
  rw [List.cons.sizeOf_spec]
  omega

mutual

/-- A category. -/
def category (location : Location) (d : Document) : Result Category :=
  match _h : d.entries? with
  | none => flaw location (.expectedMapping d.kind)
  | some entries => do
    let name ← requiredName location entries "category"
    let place := location.key "children"
    match _h' : entries.present? "children" with
    | none => flaw place .missing
    | some value =>
      match _h'' : value.items? with
      | none =>
        if value.isEndless then .error .endless else flaw place (.expectedList value.kind)
      | some items =>
        if items.isEmpty then flaw place (.noChildren name)
        else
          let contents ← children place 0 items
          checkDistinct place (categoryNames 0 contents)
          let documentation ← docs (location.key "docs") (entries.present? "docs")
          return ⟨name, documentation, contents⟩
termination_by sizeOf d
decreasing_by
  have h1 := sizeOf_lt_of_present? _h _h'
  have h2 := Document.sizeOf_lt_of_items _h''
  omega

/-- The children of a category, from the one with the given index on. -/
def children (location : Location) (i : Nat) (items : List Document) : Result Contents :=
  match items with
  | [] => .ok .empty
  | d :: rest =>
    let place := location.item i
    match d.entries? with
    | none => if d.isEndless then .error .endless else flaw place (.expectedMapping d.kind)
    | some entries =>
      match (entries.get? "category").isSome, (entries.get? "name").isSome with
      | true, true => flaw place .categoryAndName
      | true, false => do
        let first ← category place d
        let others ← children location (i + 1) rest
        return .ofCategory first others
      | false, true => do
        let first ← script place d
        let others ← children location (i + 1) rest
        return .script first others
      | false, false => flaw place .neitherCategoryNorName
termination_by sizeOf items
decreasing_by
  · exact sizeOf_first_lt d rest
  · exact sizeOf_rest_lt d rest
  · exact sizeOf_rest_lt d rest

end

/-! ## Collections -/

/-- The platform a collection is written for. -/
def platform (location : Location) (name : String) : Result Platform :=
  match Platform.ofName? name with
  | some p => .ok p
  | none => flaw location (.unsupportedPlatform name)

/-- The language of a collection's scripts. -/
def scripting (location : Location) (d : Document) : Result Scripting := do
  let entries ← mapping location d
  let language ← requiredName location entries "language"
  let startCode ← requiredText location entries "startCode"
  let endCode ← requiredText location entries "endCode"
  let fileExtension ← optionalText location entries "fileExtension"
  return ⟨language, startCode, endCode, fileExtension⟩

/-- The language of a collection's scripts, if it is given. -/
def optionalScripting (location : Location) : Option Document → Result (Option Scripting)
  | none => .ok none
  | some d => (scripting location d).map some

/-- The names of things with the indices at which they stand. -/
def indexed {α : Type} (name : α → String) : (i : Nat) → List α → List (Nat × String)
  | _, [] => []
  | i, a :: rest => (i, name a) :: indexed name (i + 1) rest

/-- The places of the scripts below, with the scripts' names, depth first. -/
def scriptPlaces (location : Location) : (i : Nat) → Contents → List (Location × String)
  | _, .empty => []
  | i, .script s rest => (location.item i, s.name) :: scriptPlaces location (i + 1) rest
  | i, .category _ _ below rest =>
    scriptPlaces ((location.item i).key "children") 0 below ++
      scriptPlaces location (i + 1) rest

/-- The places of all scripts, with their names, depth first. -/
def allScriptPlaces (location : Location) : (i : Nat) → List Category → List (Location × String)
  | _, [] => []
  | i, c :: rest =>
    scriptPlaces ((location.item i).key "children") 0 c.children ++
      allScriptPlaces location (i + 1) rest

/-- Whether the functions, and the scripts of the whole tree, have distinct
names. -/
def checkNames (c : Collection) : Result Unit :=
  match firstRepeat? [] (indexed Function.name 0 c.functions) with
  | some (i, name) => flaw [.key "functions", .index i, .key "name"] (.repeatedFunction name)
  | none =>
    match firstRepeat? [] (allScriptPlaces [.key "actions"] 0 c.actions) with
    | some (place, name) => flaw (place.key "name") (.repeatedScript name)
    | none => .ok ()

/-- A collection. -/
def collection (d : Document) : Result Collection := do
  let entries ← mapping [] d
  let name ← requiredName [] entries "os"
  let os ← platform [.key "os"] name
  let language ← optionalScripting [.key "scripting"] (entries.present? "scripting")
  let place : Location := [.key "actions"]
  let raw ← required [] entries "actions"
  let items ← list place raw
  if items.isEmpty then flaw place .noCategories
  else
    let actions ← each category place 0 items
    checkDistinct place (indexed Category.name 0 actions)
    let place : Location := [.key "functions"]
    let items ← (match filled? entries "functions" with
      | some value => list place value
      | none => .ok [])
    let functions ← each function place 0 items
    let result : Collection := ⟨os, language, actions, functions⟩
    checkNames result
    return result

end Tweaks.Decode

/-- The collection a document describes. -/
def Tweaks.Collection.ofDocument (d : Tweaks.Document) :
    Except Tweaks.Rejection Tweaks.Collection :=
  Tweaks.Decode.collection d
