import Tweaks.Banner.Filter.Items
import Tweaks.Banner.Filter.Notation
import Tweaks.Banner.Filter.Number
import Tweaks.Banner.Filter.Text

/-!
# Tests

Whether a value has the property that a test names, be it in regard to another value.
-/

namespace Tweaks.Banner

-- Powers of whole numbers are those of the core library.
attribute [local instance (5000)] instPowNat

/-- A test: the names of its parameters, all of which have to be given, and whether a value
has the property in regard to the arguments. -/
structure Test where
  parameters : List String
  holds : List Value → Value → Run Bool

/-- Whether a value with arguments has the property of a test. -/
def Test.run (t : Test) (v : Value) (places : List Value) (named : Scope) : Run Bool := do
  let given ← Run.lift (bindArguments t.parameters places named)
  match t.parameters.mapM fun name => given.lookup name with
  | some arguments => t.holds arguments v
  | none => Run.fail .wrongKind

/-! ## Kinds of tests -/

/-- A test that looks at nothing but the value. -/
def Test.plain (holds : Value → Bool) : Test :=
  ⟨[], fun _ v => return holds v⟩

/-- A test that compares the value with another one, which is not given by a name. -/
def Test.comparing (op : Comparison) : Test :=
  ⟨[""], fun arguments v => compare op v (arguments.headD .none)⟩

/-- A test that looks at what is left of a quotient. -/
def Test.remainder (parameters : List String) (divisor : List Value → Value) (left : Int) :
    Test :=
  ⟨parameters, fun arguments v => do
    compare .equal (← operate .remainder v (divisor arguments)) (.number left)⟩

/-- A test of a value's text. -/
def Test.ofText (holds : List Char → Bool) : Test :=
  ⟨[], fun _ v => do return holds (← plainOf v)⟩

/-- A test whether a value is one of some names. -/
def Test.among (names : List String) : Test :=
  ⟨[], fun _ v => do
    Run.lift (checkKey deepest v)
    return v.textOf?.any names.contains⟩

/-! ## What values can do -/

/-- Whether a value can be called. -/
def isCallable (w : World) (v : Value) : Bool :=
  match v with
  | .function _ | .kind _ | .alias _ _ | .method _ _ _ | .unbound _ _ | .block _ | .missing _ =>
    true
  | .object place =>
    match w.objectAt place with
    | .routine _ | .separator _ _ | .round _ => true
    | _ => false
  | _ => false

/-- Whether a value has a number of items and can be asked for what it has at places or under
keys. -/
def isSequence (v : Value) : Bool :=
  match v with
  | .mapping _ | .proxy _ | .missing true => true
  | .range first last step => Value.rangeLength first last step < 2 ^ (63 : Nat)
  | v => v.hasPlaces

/-- Whether a value has items. -/
def isIterable (w : World) (v : Value) : Except Fault Bool :=
  match v with
  | .object place =>
    match w.objectAt place with
    | .supply _ _ | .round _ => .ok true
    | _ => .ok false
  | .banner | .alias _ _ => .ok true
  | v =>
    match lastingItems w v with
    | .ok _ => .ok true
    | .error .wrongKind => .ok false
    | .error fault => .error fault

/-! ## Table -/

/-- The names of the filters that call other filters or tests. -/
def selectingFilters : List String :=
  ["format", "map", "reject", "rejectattr", "select", "selectattr"]

/-- The filters that call no others. -/
def simpleFilters : Filters :=
  textFilters ++ numberFilters ++ itemFilters ++ notationFilters

/-- The names of all filters. -/
def filterNames : List String :=
  simpleFilters.map Prod.fst ++ selectingFilters

/-- The tests that compare values. -/
def comparingTests : List (String × Comparison) := [
  ("==", .equal), ("eq", .equal), ("equalto", .equal), ("!=", .unequal), ("ne", .unequal),
  (">", .greater), ("gt", .greater), ("greaterthan", .greater), (">=", .atLeast),
  ("ge", .atLeast), ("<", .less), ("lt", .less), ("lessthan", .less), ("<=", .atMost),
  ("le", .atMost)]

/-- The tests but for those that compare values or look at the names of tests. -/
def otherTests : List (String × Test) := [
  ("boolean", .plain fun v => match v with
    | .truth _ => true
    | _ => false),
  ("callable", ⟨[], fun _ v => Run.reading fun w => .ok (isCallable w v)⟩),
  ("defined", .plain fun v => !v.isMissing),
  ("divisibleby", .remainder ["num"] (·.headD .none) 0),
  ("escaped", .plain fun v => match v with
    | .markup _ => true
    | _ => false),
  ("even", .remainder [] (fun _ => .number 2) 0),
  ("false", .plain fun v => match v with
    | .truth b => !b
    | _ => false),
  ("filter", .among filterNames),
  ("float", .plain Value.isDecimal),
  ("in", ⟨["seq"], fun arguments v => isWithin v (arguments.headD .none)⟩),
  ("integer", .plain fun v => match v with
    | .number _ => true
    | _ => false),
  ("iterable", ⟨[], fun _ v => Run.reading fun w => isIterable w v⟩),
  ("lower", .ofText Text.isSmallText),
  ("mapping", .plain fun v => (mappingPlace? v).isSome),
  ("none", .plain fun v => match v with
    | .none => true
    | _ => false),
  ("number", .plain fun v => match v with
    | .complex _ => true
    | v => v.quantityOf?.isSome),
  ("odd", .remainder [] (fun _ => .number 2) 1),
  ("sameas", ⟨["other"], fun arguments v => return sameObject v (arguments.headD .none)⟩),
  ("sequence", .plain isSequence),
  ("string", .plain fun v => v.textOf?.isSome),
  ("true", .plain fun v => match v with
    | .truth b => b
    | _ => false),
  ("undefined", .plain Value.isMissing),
  ("upper", .ofText Text.isLargeText)]

/-- The names of all tests. -/
def testNames : List String :=
  "test" :: otherTests.map Prod.fst ++ comparingTests.map Prod.fst

/-- The test of a name, if there is one. -/
def testOf? (name : String) : Option Test :=
  if name = "test" then some (.among testNames)
  else (otherTests.lookup name).or ((comparingTests.lookup name).map Test.comparing)

end Tweaks.Banner
