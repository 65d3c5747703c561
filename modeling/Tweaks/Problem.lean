import Tweaks.Banner.Render
import Tweaks.Collection.Decode
import Tweaks.Compilation
import Tweaks.Console.Markup
import Tweaks.Workspace
import Tweaks.Yaml

/-!
# Problems

Everything that may be wrong with a collection or a selection, with the words in
which it is reported: a kind, what it is about, and a message.  Complaints are about what is
around a collection: the settings, the banner they give, or the system that commands run on.
-/

namespace Tweaks

/-! ## Complaints -/

/-- Something that is wrong with the settings or the system. -/
inductive Complaint where
  /-- Settings that cannot be read. -/
  | unreadable (path : Path)
  /-- Settings that are no mapping. -/
  | noMapping (path : Path)
  /-- Settings with values of the wrong kind under these names. -/
  | rejected (path : Path) (fields : List String)
  | banner
  /-- A system for which there is no platform. -/
  | unsupported (message : String)
deriving DecidableEq, Repr

namespace Complaint

/-- The message for a complaint. -/
def message : Complaint → String
  | unreadable path => "Cannot read " ++ path.text
  | noMapping path => "Invalid config " ++ path.text ++ ": expected a mapping"
  | rejected path _ => "Invalid config " ++ path.text
  | banner => "Invalid banner template"
  | unsupported message => message ++ "; pass --os"

/-- The names under which the settings have wrong values. -/
def fields : Complaint → List String
  | rejected _ fields => fields
  | _ => []

/-- The exit status of a command that fails with a complaint. -/
def exitCode : Complaint → Nat
  | unsupported _ => 1
  | _ => 2

end Complaint

/-! ## Problems -/

/-- Something that is wrong with a collection or a selection. -/
inductive Problem where
  /-- A collection that cannot be read. -/
  | load (origin reason : String)
  /-- A document that is no collection. -/
  | document (location : Location) (flaw : Flaw)
  | resolution (error : ResolutionError)
  /-- A script that cannot be resolved. -/
  | script (name : String) (direction : Direction) (cause : ResolutionError)
  | unknownScripts (names : List String)
  | unknownCategories (names : List String)
deriving DecidableEq, Repr

/-- A way in which work breaks off that no problem describes. -/
inductive Breakdown where
  /-- A value in a YAML text that does not exist or has another shape. -/
  | value (fault : Yaml.Fault)
  /-- A text that is not spelled in UTF-8. -/
  | notUtf8
  /-- A text with a character that stands for nothing by itself. -/
  | notEncodable
  /-- A document that lies within itself. -/
  | endless
  /-- A number with more digits than can be written. -/
  | tooLong
  /-- An argument that is no template, or a value that is not bound. -/
  | unchecked (failure : Failure)
  /-- A file that cannot be written or looked at. -/
  | file (error : FileError)
  /-- A banner that computes what cannot be computed. -/
  | banner (fault : Banner.Fault)
  /-- A text with markup that cannot be read. -/
  | markup (fault : Console.Markup.Fault)
  /-- A script that the system does not execute, or whose file it does not remove. -/
  | system (fault : SystemFault)
deriving DecidableEq, Repr

/-- Why work comes to no result. -/
inductive Obstacle where
  | problem (problem : Problem)
  | complaint (complaint : Complaint)
  | breakdown (breakdown : Breakdown)
deriving DecidableEq, Repr

/-- The kind of an error of resolving. -/
def ResolutionError.kind : ResolutionError → String
  | unknownFunction _ => "UnknownFunction"
  | missingArgument _ _ => "MissingArgument"
  | unexpectedArgument _ _ => "UnexpectedArgument"
  | undeclaredParameter _ _ => "UndeclaredParameter"
  | unknownPipe _ _ => "UnknownPipe"
  | cyclicCall _ => "CyclicFunctionCall"

namespace Problem

/-- The kind of a problem.  That of a script is the kind of its cause. -/
def kind : Problem → String
  | load _ _ => "LoadError"
  | document _ _ => "DocumentError"
  | resolution error => error.kind
  | script _ _ cause => cause.kind
  | unknownScripts _ => "UnknownScript"
  | unknownCategories _ => "UnknownCategory"

/-- What a problem is about. -/
def identifier : Problem → String
  | load origin _ => origin
  | document location _ => location.render
  | resolution error => error.identifier
  | script _ _ cause => cause.identifier
  | unknownScripts names => Document.commas names
  | unknownCategories names => Document.commas names

/-- A place in a document, as messages give it. -/
def place (location : Location) : String :=
  let path := location.render
  if path.isEmpty then "<root>" else path

/-- The message for a problem. -/
def message : Problem → String
  | load origin reason => "Cannot load " ++ origin ++ ": " ++ reason
  | document location flaw => place location ++ ": " ++ flaw.message
  | resolution error => error.message
  | script name direction cause =>
    "Script " ++ Text.quote name ++ " (" ++ direction.name ++ "): " ++ cause.message
  | unknownScripts names => "Script not found: " ++ Document.commas names
  | unknownCategories names => "Category not found: " ++ Document.commas names

/-- The exit status of a command that fails with a problem. -/
def exitCode : Problem → Nat
  | load _ _ => 2
  | document _ _ => 3
  | _ => 1

end Problem

namespace Obstacle

/-- A rejected document. -/
def ofRejection : Rejection → Obstacle
  | .flawed location flaw => .problem (.document location flaw)
  | .endless => .breakdown .endless
  | .tooLong => .breakdown .tooLong

/-- A call that is not resolved. -/
def ofFailure : Failure → Obstacle
  | .error e => .problem (.resolution e)
  | failure => .breakdown (.unchecked failure)

/-- A selection that is not compiled. -/
def ofCompileError : CompileError → Obstacle
  | .unknownScripts names => .problem (.unknownScripts names)
  | .unknownCategories names => .problem (.unknownCategories names)
  | .script name direction (.error e) => .problem (.script name direction e)
  | .script _ _ failure => .breakdown (.unchecked failure)

/-- A text that gives no document, from the given origin. -/
def ofFault (origin : String) : Yaml.Fault → Obstacle
  | .malformed => .problem (.load origin "invalid YAML")
  | fault => .breakdown (.value fault)

end Obstacle

/-- The collection that a YAML text describes; `origin` names the text, in which at most
`deepest` collections of YAML may lie one within the other. -/
def Collection.parse (deepest : Nat) (origin source : String) : Except Obstacle Collection :=
  match Yaml.parse deepest source with
  | .error fault => .error (.ofFault origin fault)
  | .ok d =>
    match Collection.ofDocument d with
    | .error rejection => .error (.ofRejection rejection)
    | .ok c => .ok c

end Tweaks
