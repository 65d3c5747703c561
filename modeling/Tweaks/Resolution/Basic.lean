import Tweaks.Collection
import Tweaks.Template.Parse
import Tweaks.Template.Render
import Tweaks.Text.Lines

/-!
# Resolving functions

What resolving a call consists of: binding the arguments to the parameters of
the called function, filling in its templates, and putting the codes of several
calls together.

Main results:

- `merge_singleton`: the code of one call.
- `bindParameters_names`: binding gives every parameter its place in the values.
-/

namespace Tweaks

/-- The code of a call or script, and the code that undoes it. -/
structure Resolved where
  code : String
  revertCode : Option String
deriving DecidableEq, Repr, Inhabited

/-- Why a call cannot be resolved. -/
inductive ResolutionError where
  | unknownFunction (name : String)
  | missingArgument (function parameter : String)
  | unexpectedArgument (function parameter : String)
  | undeclaredParameter (function parameter : String)
  | unknownPipe (pipe function : String)
  /-- A function that ends up calling itself: the functions from it back to it. -/
  | cyclicCall (cycle : List String)
deriving DecidableEq, Repr

namespace ResolutionError

/-- The functions of a cycle with arrows between them. -/
def arrows (cycle : List String) : String :=
  Text.join " -> " cycle

/-- What an error is about. -/
def identifier : ResolutionError → String
  | unknownFunction name => name
  | missingArgument function parameter => function ++ "." ++ parameter
  | unexpectedArgument function parameter => function ++ "." ++ parameter
  | undeclaredParameter function parameter => function ++ "." ++ parameter
  | unknownPipe pipe _ => pipe
  | cyclicCall cycle => arrows cycle

/-- The message for an error. -/
def message : ResolutionError → String
  | unknownFunction name => "Function not found: " ++ name
  | missingArgument function parameter =>
    "Function " ++ function ++ " requires parameter " ++ parameter
  | unexpectedArgument function parameter =>
    "Function " ++ function ++ " does not expect parameter " ++ parameter
  | undeclaredParameter function parameter =>
    "Function " ++ function ++ " references undeclared parameter $" ++ parameter
  | unknownPipe pipe function => "Unknown pipe: " ++ pipe ++ " in function " ++ function
  | cyclicCall cycle => "Cyclic function call: " ++ arrows cycle

end ResolutionError

/-- Why resolving fails: for a reason that has to be mended in the collection,
or for one that a decoded collection rules out. -/
inductive Failure where
  | error (error : ResolutionError)
  /-- An argument that is no template. -/
  | argument (error : Template.SyntaxError)
  /-- A parameter that is declared and has no place among the values. -/
  | unbound (name : String)
deriving DecidableEq, Repr

namespace Resolution

/-- Texts that are not empty. -/
def nonEmpty (texts : List String) : List String :=
  texts.filter fun text => !text.isEmpty

/-- The codes of consecutive calls as one, line by line.  The code that undoes
them is put together from those that have one. -/
def merge (results : List Resolved) : Resolved :=
  let reverts := nonEmpty (results.filterMap Resolved.revertCode)
  ⟨Text.join "\n" (nonEmpty (results.map Resolved.code)),
    if reverts.isEmpty then none else some (Text.join "\n" reverts)⟩

/-- The code of a single call stays as it is; an empty code that undoes it counts
as none. -/
theorem merge_singleton (r : Resolved) :
    merge [r] = ⟨r.code, r.revertCode.filter fun text => !text.isEmpty⟩ := by
  obtain ⟨code, revert⟩ := r
  have hjoin (s : String) : Text.join "\n" [s] = s := by simp [Text.join]
  have hempty : Text.join "\n" [] = "" := by simp [Text.join]
  have hcode : Text.join "\n" (nonEmpty [code]) = code := by
    by_cases h : code.isEmpty
    · rw [String.isEmpty_iff.1 h]
      simp [nonEmpty, hempty]
    · simp [nonEmpty, h, hjoin]
  have hrevert : (if (nonEmpty revert.toList).isEmpty then none
      else some (Text.join "\n" (nonEmpty revert.toList))) =
        revert.filter fun text => !text.isEmpty := by
    cases revert with
    | none => rfl
    | some text =>
      by_cases h : text.isEmpty
      · simp [nonEmpty, h, Option.filter]
      · simp [nonEmpty, h, hjoin, Option.filter]
  have hmap : [Resolved.mk code revert].filterMap Resolved.revertCode = revert.toList := by
    cases revert <;> rfl
  simp only [merge, hmap, hrevert, List.map_cons, List.map_nil, hcode]

/-! ## Binding arguments -/

/-- A value given to a parameter, or taken in its place. -/
def parameterValue (function : String) (p : Parameter) (given : Option String) :
    Except Failure (Option String) :=
  match given with
  | some value =>
    if value.isEmpty && p.required then .error (.error (.missingArgument function p.name))
    else .ok (some value)
  | none =>
    match p.default with
    | some value => .ok (some value)
    | none =>
      if p.optional then .ok none
      else .error (.error (.missingArgument function p.name))

/-- The values of parameters, in the order in which they are declared. -/
def bindParameters (function : String) (arguments : List (String × String)) :
    List Parameter → Except Failure Template.Values
  | [] => .ok []
  | p :: rest => do
    let value ← parameterValue function p (arguments.lookup p.name)
    let values ← bindParameters function arguments rest
    return (p.name, value) :: values

/-- The first argument that no parameter asks for. -/
def unexpected? (declared : List String) (arguments : List (String × String)) :
    Option String :=
  (arguments.map Prod.fst).find? fun name => !declared.contains name

/-- The values of a function's parameters in a call. -/
def bindArguments (f : Function) (arguments : List (String × String)) :
    Except Failure Template.Values :=
  match unexpected? f.parameterNames arguments with
  | some name => .error (.error (.unexpectedArgument f.name name))
  | none => bindParameters f.name arguments f.parameters

/-- Binding gives every parameter its place in the values. -/
theorem bindParameters_names {function : String} {arguments : List (String × String)}
    {parameters : List Parameter} {values : Template.Values}
    (h : bindParameters function arguments parameters = .ok values) :
    values.map Prod.fst = parameters.map Parameter.name := by
  induction parameters generalizing values with
  | nil => cases h; rfl
  | cons p rest ih =>
    simp only [bindParameters, bind, Except.bind, pure, Except.pure] at h
    split at h
    · cases h
    · split at h
      · cases h
      · next hrest =>
        cases h
        simp [ih hrest]

/-! ## Filling in templates -/

/-- The first parameter, in ascending order, that a template refers to and the
values lack. -/
def undeclared? (values : Template.Values) (t : Template) : Option String :=
  t.parameters.find? fun name => (values.find? name).isNone

/-- The text of one of a function's templates. -/
def fill (registry : Template.Registry) (f : Function) (values : Template.Values)
    (t : Template) : Except Failure String :=
  match undeclared? values t with
  | some name => .error (.error (.undeclaredParameter f.name name))
  | none =>
    match t.render registry values with
    | .ok text => .ok text
    | .error (.unknownPipe pipe) => .error (.error (.unknownPipe pipe f.name))
    | .error (.unbound name) => .error (.unbound name)

/-- The arguments of a call inside a function, filled in with the function's own
values. -/
def fillArguments (registry : Template.Registry) (f : Function) (values : Template.Values) :
    List (String × String) → Except Failure (List (String × String))
  | [] => .ok []
  | (name, source) :: rest => do
    let t ← (match Template.parse source with
      | .ok t => .ok t
      | .error e => .error (.argument e))
    let text ← fill registry f values t
    let others ← fillArguments registry f values rest
    return (name, text) :: others

/-- A text without breaks around it, unless nothing is left of it. -/
def trimmed? (text : String) : Option String :=
  let text := Text.trim text
  if text.isEmpty then none else some text

/-- The code of a function's own template. -/
def leafCode (registry : Template.Registry) (f : Function) (values : Template.Values) :
    Except Failure String :=
  match f.code with
  | none => .ok ""
  | some t => (fill registry f values t).map Text.trim

/-- The code of a function's own template for undoing. -/
def leafRevertCode (registry : Template.Registry) (f : Function) (values : Template.Values) :
    Except Failure (Option String) :=
  match f.revertCode with
  | none => .ok none
  | some t => (fill registry f values t).map trimmed?

/-- Both codes of a function that calls no other. -/
def leaf (registry : Template.Registry) (f : Function) (values : Template.Values) :
    Except Failure Resolved := do
  let code ← leafCode registry f values
  let revertCode ← leafRevertCode registry f values
  return ⟨code, revertCode⟩

end Resolution

end Tweaks
