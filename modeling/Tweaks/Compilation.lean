import Tweaks.Resolution.Machine
import Tweaks.Selection
import Tweaks.Text.Order
import Tweaks.Text.Quoted

/-!
# Compiling

Turns a collection and a selection into fragments: the resolved code of each
selected script, in the order of the collection.  Scripts without code in the
chosen direction give no fragment, and of equal texts only the first is kept.

Main results:

- `text_forward`, `text_revert`: the text of a fragment by its direction.
- `keep_nil`: nothing is left of no script.
-/

namespace Tweaks

/-- The resolved code of one script, in the direction in which it is needed. -/
structure Fragment where
  name : String
  code : String
  revertCode : Option String
  direction : Direction
deriving DecidableEq, Repr, Inhabited

namespace Fragment

/-- The code a fragment stands for. -/
def text (f : Fragment) : String :=
  match f.direction with
  | .forward => f.code
  | .revert => f.revertCode.getD ""

/-- The name of a fragment's script, marked where it is undone. -/
def title (f : Fragment) : String :=
  match f.direction with
  | .forward => f.name
  | .revert => f.name ++ " (revert)"

@[simp]
theorem text_forward (name code : String) (revertCode : Option String) :
    text ⟨name, code, revertCode, .forward⟩ = code := rfl

@[simp]
theorem text_revert (name code : String) (revertCode : Option String) :
    text ⟨name, code, revertCode, .revert⟩ = revertCode.getD "" := rfl

end Fragment

/-- Why a selection is not compiled. -/
inductive CompileError where
  /-- Selected names that no script has. -/
  | unknownScripts (names : List String)
  /-- Selected names that no category has. -/
  | unknownCategories (names : List String)
  /-- A script that cannot be resolved. -/
  | script (name : String) (direction : Direction) (cause : Failure)
deriving DecidableEq, Repr

namespace Compilation

open Resolution

/-- Resolves the calls of a script, one after the other with the same memo. -/
def resolveEach (c : Collection) (registry : Template.Registry) :
    Memo → List Call → Except Failure (List Resolved) × Memo
  | memo, [] => (.ok [], memo)
  | memo, call :: rest =>
    match resolveWith c registry memo [] call with
    | (.error e, memo) => (.error e, memo)
    | (.ok first, memo) =>
      match resolveEach c registry memo rest with
      | (.error e, memo) => (.error e, memo)
      | (.ok others, memo) => (.ok (first :: others), memo)

/-- The code of a script that calls no function. -/
def inlineCode (s : Script) : Resolved :=
  ⟨Text.trim (s.code.getD ""), s.revertCode.bind trimmed?⟩

/-- The code of a script. -/
def resolveScript (c : Collection) (registry : Template.Registry) (memo : Memo) (s : Script) :
    Except Failure Resolved × Memo :=
  if s.calls.isEmpty then (.ok (inlineCode s), memo)
  else
    match resolveEach c registry memo s.calls with
    | (.error e, memo) => (.error e, memo)
    | (.ok results, memo) => (.ok (merge results), memo)

/-- The selected names that are not among the known ones, in ascending order. -/
def unknown (known : List String) (selected : Option (List String)) : List String :=
  Text.sortDistinct ((selected.getD []).filter fun name => !known.contains name)

/-- Whether the names and categories of a selection exist in the collection. -/
def check (c : Collection) (s : Selection) : Except CompileError Unit :=
  match unknown (c.scripts.map Script.name) s.names,
    unknown (c.categories.map Category.name) s.categories with
  | [], [] => .ok ()
  | [], categories => .error (.unknownCategories categories)
  | names, _ => .error (.unknownScripts names)

/-- The scripts of a collection that are selected, in order. -/
def selected (c : Collection) (s : Selection) : List Script :=
  (c.walk.filter fun (trail, script) => s.matchesScript trail script).map Prod.snd

/-- Resolves scripts one after the other with the same memo. -/
def resolveScripts (c : Collection) (registry : Template.Registry) (direction : Direction) :
    Memo → List Script → Except CompileError (List (Script × Resolved)) × Memo
  | memo, [] => (.ok [], memo)
  | memo, s :: rest =>
    match resolveScript c registry memo s with
    | (.error e, memo) => (.error (.script s.name direction e), memo)
    | (.ok first, memo) =>
      match resolveScripts c registry direction memo rest with
      | (.error e, memo) => (.error e, memo)
      | (.ok others, memo) => (.ok ((s, first) :: others), memo)

/-- The fragment of a resolved script. -/
def fragment (direction : Direction) (s : Script) (r : Resolved) : Fragment :=
  ⟨s.name, r.code, r.revertCode, direction⟩

/-- The fragments with a text, each text once, at its first place.  `seen` holds
the texts before them. -/
def keep : (seen : List String) → List Fragment → List Fragment
  | _, [] => []
  | seen, f :: rest =>
    if f.text.isEmpty || seen.contains f.text then keep seen rest
    else f :: keep (f.text :: seen) rest

@[simp]
theorem keep_nil (seen : List String) : keep seen [] = [] := rfl

/-- Compiles the selected scripts, with a memo that later compilations may go on
using. -/
def compileWith (c : Collection) (registry : Template.Registry) (memo : Memo)
    (s : Selection) : Except CompileError (List Fragment) × Memo :=
  match check c s with
  | .error e => (.error e, memo)
  | .ok () =>
    match resolveScripts c registry s.direction memo (selected c s) with
    | (.error e, memo) => (.error e, memo)
    | (.ok resolved, memo) =>
      (.ok (keep [] (resolved.map fun (script, r) => fragment s.direction script r)), memo)

/-- Compiles the selected scripts. -/
def compile (c : Collection) (registry : Template.Registry) (s : Selection) :
    Except CompileError (List Fragment) :=
  (compileWith c registry [] s).1

end Compilation

end Tweaks
