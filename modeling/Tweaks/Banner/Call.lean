import Tweaks.Banner.Filter
import Tweaks.Banner.Mention

/-!
# Calls and targets

How the arguments of a call are gathered, how a routine's names get their values from them,
and how the names on the left of a value get theirs.
-/

namespace Tweaks.Banner

/-! ## Arguments -/

/-- The expressions of arguments by their places. -/
def Argument.place? : Argument → Option Expr
  | .place e => some e
  | _ => none

/-- The expressions of several arguments by their places. -/
def Argument.spread? : Argument → Option Expr
  | .spread e => some e
  | _ => none

/-- The expressions of arguments by name. -/
def Argument.named? : Argument → Option (String × Expr)
  | .named name e => some (name, e)
  | _ => none

/-- The expressions of several arguments by name. -/
def Argument.spreadNamed? : Argument → Option Expr
  | .spreadNamed e => some e
  | _ => none

/-- Arguments by name with those that the entries of a mapping give; none is given twice. -/
def withSpread (named : Scope) : List (Value × Value) → Except Fault Scope
  | [] => .ok named
  | (k, v) :: rest => do
    let name ← orFault .wrongKind k.textOf?
    if named.any fun (other, _) => other = name then .error .wrongKind
    else withSpread (named ++ [(name, v)]) rest

/-- The values of arguments: first those by their places, then those by name. -/
def argumentValues (value : Expr → Run Value) (arguments : List Argument) :
    Run (List Value × Scope) := do
  let places ← (arguments.filterMap Argument.place?).mapM value
  let spread ← (arguments.filterMap Argument.spread?).mapM fun e => do itemsOf (← value e)
  let named ← (arguments.filterMap Argument.named?).foldlM (fun named (name, e) => do
    return withEntry name (← value e) named) []
  let named ← (arguments.filterMap Argument.spreadNamed?).foldlM (fun named e => do
    match ← value e with
    | .mapping place | .proxy place => do
      let entries ← entriesAt place
      Run.lift (withSpread named entries)
    | .missing _ => Run.fail .missing
    | _ => Run.fail .wrongKind) named
  return (places ++ spread.flatten, named)

/-! ## Routines -/

/-- The names of a routine with the values that a call gives them.  What the body asks for
besides the parameters is given to it: who calls, and the arguments that are left over. -/
def Routine.bind (r : Routine) (places : List Value) (named : Scope) : Run Scope := do
  let names := r.parameters.parameters
  let open_ := names.drop places.length
  let filled := open_.filterMap fun name => (named.lookup name).map fun v => (name, v)
  let left := named.filter fun (name, _) => !open_.contains name
  let asksCaller := readsName "caller" r.body &&
    !(if open_.isEmpty then names else open_).contains "caller"
  let caller : Scope := if asksCaller then
    [("caller", match left.lookup "caller" with
      | none | some .none => .missing false
      | some v => v)] else []
  let left := if asksCaller then left.filter fun (name, _) => name ≠ "caller" else left
  if !left.isEmpty && !r.asksFor "kwargs" then Run.fail .wrongKind
  else if names.length < places.length && !r.asksFor "varargs" then Run.fail .wrongKind
  else
    let others : Scope ← (if r.asksFor "kwargs" then do
        let v ← newMapping (left.map fun (name, v) => (.text name, v))
        return [("kwargs", v)]
      else pure [])
    let more : Scope := if r.asksFor "varargs" then
      [("varargs", .tuple (places.drop names.length))] else []
    return names.zip places ++ filled ++ caller ++ others ++ more

/-- The names that a routine mentions in its frame. -/
def Routine.mentions (r : Routine) : List Mention :=
  givenNames r.parameters.parameters ++ readNames r.parameters.names ++ frameMentionsOf r.body

/-! ## Targets -/

/-- Gives a value to the part of an object that has a name. -/
def assignPart (owner : Value) (name : String) (v : Value) : Run Unit := do
  match owner with
  | .object place => do
    match ← objectAt place with
    | .record entries => setKey entries
    | _ => Run.fail .wrongKind
  | .mapping place => setKey place
  | _ => Run.fail .wrongKind
where
  /-- Gives a mapping the value under the name. -/
  setKey (place : Nat) : Run Unit := do
    let entries ← entriesAt place
    setEntries place (← Run.reading fun w => withKey w (.text name) v entries)

mutual

/-- Gives a value to a target, whose names belong to the frame at a place. -/
def Target.assign (env : Env) (place : Nat) (v : Value) : Target → Run Unit
  | .name name => setName place name v
  | .several targets => do
    let items ← itemsOf v
    if items.length ≠ targets.length then Run.fail .wrongValue
    else assignAll env place items targets
  | .part owner name => do
    assignPart ((← lookup? env owner).getD (.missing false)) name v

/-- Gives values to targets. -/
def assignAll (env : Env) (place : Nat) (values : List Value) : List Target → Run Unit
  | [] => pure ()
  | target :: rest => do
    target.assign env place (values.headD .none)
    assignAll env place values.tail rest

end

mutual

/-- What a target stands for. -/
def Target.read (env : Env) : Target → Run Value
  | .name name => do return (← lookup? env name).getD (.missing false)
  | .several targets => do return .tuple (← readAll env targets)
  | .part owner name => do partOf ((← lookup? env owner).getD (.missing false)) name

/-- What targets stand for. -/
def readAll (env : Env) : List Target → Run (List Value)
  | [] => return []
  | target :: rest => do
    let v ← target.read env
    return v :: (← readAll env rest)

end

/-- Whether all parts in a target are parts of objects that have names. -/
def checkOwners (env : Env) (target : Target) : Run Unit :=
  target.owners.forM fun owner => do
    match ← lookup? env owner with
    | some (.object place) => do
      match ← objectAt place with
      | .record _ => pure ()
      | _ => Run.fail .unfit
    | _ => Run.fail .unfit

end Tweaks.Banner
