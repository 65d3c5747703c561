import Tweaks.Document.Display
import Tweaks.Template.Parse

/-!
# Flaws of documents

Why a document is no collection, and where.  A location is a path of keys and
indices from the root of the document.
-/

namespace Tweaks

/-- A step from a list or mapping to one of its parts. -/
inductive Step where
  | key (name : String)
  | index (i : Nat)
deriving DecidableEq, Repr

/-- A place in a document: the steps that lead there from the root. -/
abbrev Location := List Step

namespace Location

/-- A location with one more step, written out.  Keys are set off by dots, but
for the first; indices stand in brackets. -/
def renderStep (path : String) : Step → String
  | .key name => if path.isEmpty then name else path ++ "." ++ name
  | .index i => path ++ "[" ++ Document.numberText i ++ "]"

/-- A location, written out. -/
def render (location : Location) : String :=
  location.foldl renderStep ""

/-- The place under a key. -/
def key (location : Location) (name : String) : Location :=
  location ++ [.key name]

/-- The place of an item. -/
def item (location : Location) (i : Nat) : Location :=
  location ++ [.index i]

end Location

/-- What has code or calls: a function or a script. -/
inductive Owner where
  | function (name : String)
  | script (name : String)
deriving DecidableEq, Repr

/-- A function or script, as messages name it. -/
def Owner.text : Owner → String
  | function name => "function " ++ Text.quote name
  | script name => "script " ++ Text.quote name

/-- What is wrong at a place of a document. -/
inductive Flaw where
  | expectedMapping (kind : String)
  | expectedList (kind : String)
  | expectedText (kind : String)
  | expectedScalar (kind : String)
  | expectedBool
  | blank
  | missing
  | template (error : Template.SyntaxError)
  | parameterName (name : String)
  | repeatedParameter (name function : String)
  | codeAndCall (owner : Owner)
  | neitherCodeNorCall (owner : Owner)
  | revertCodeWithCall (owner : Owner)
  | noCalls
  | unknownLevel (shown : String)
  | noChildren (category : String)
  | categoryAndName
  | neitherCategoryNorName
  | repeatedCategory (name : String)
  | unsupportedPlatform (name : String)
  | noCategories
  | repeatedFunction (name : String)
  | repeatedScript (name : String)
deriving DecidableEq, Repr

/-- The message for a flaw, without its place. -/
def Flaw.message : Flaw → String
  | expectedMapping kind => "expected a mapping, got " ++ kind
  | expectedList kind => "expected a list, got " ++ kind
  | expectedText kind => "expected a string, got " ++ kind
  | expectedScalar kind => "expected a scalar value, got " ++ kind
  | expectedBool => "expected true or false"
  | blank => "must not be empty"
  | missing => "missing required field"
  | template error => error.message
  | parameterName name =>
    "invalid parameter name " ++ Text.quote name ++ " (alphanumeric only)"
  | repeatedParameter name function =>
    "duplicate parameter " ++ Text.quote name ++ " in function " ++ Text.quote function
  | codeAndCall owner => owner.text ++ " defines both 'code' and 'call'"
  | neitherCodeNorCall owner => owner.text ++ " must define 'code' or 'call'"
  | revertCodeWithCall owner => owner.text ++ " defines 'revertCode' together with 'call'"
  | noCalls => "must contain at least one call"
  | unknownLevel shown =>
    "unknown recommendation level " ++ shown ++ " (expected 'standard' or 'strict')"
  | noChildren category => "category " ++ Text.quote category ++ " has no children"
  | categoryAndName => "defines both 'category' and 'name'"
  | neitherCategoryNorName => "child must define 'category' or 'name'"
  | repeatedCategory name => "duplicate category name " ++ Text.quote name
  | unsupportedPlatform name => "unsupported operating system " ++ Text.quote name
  | noCategories => "collection must define at least one category"
  | repeatedFunction name => "duplicate function name " ++ Text.quote name
  | repeatedScript name => "duplicate script name " ++ Text.quote name

/-- Why a document is not decoded. -/
inductive Rejection where
  /-- Something is wrong at a place. -/
  | flawed (location : Location) (flaw : Flaw)
  /-- A category lies within itself, so that reading it would not end. -/
  | endless
  /-- A number has more digits than can be written. -/
  | tooLong
deriving DecidableEq, Repr

end Tweaks
