import Tweaks.Banner.Call
import Tweaks.Banner.Subexpression

/-!
# Values that are known beforehand

The expressions of a banner whose values do not hang on any name are worked out before the
banner is filled in.  What cannot be worked out then is left for later, but some of it shows
itself to be wrong at once.
-/

namespace Tweaks.Banner

/-! ## Working out -/

/-- The filters that are not applied beforehand. -/
def laterFilters : List String :=
  ["map", "random", "reject", "rejectattr", "select", "selectattr"]

/-- The values of expressions, if all of them are known. -/
def allFixed (value : Expr → Run (Option Value)) : List Expr → Run (Option (List Value))
  | [] => return some []
  | e :: rest => do
    match ← value e with
    | none => return none
    | some v => return (← allFixed value rest).map (v :: ·)

/-- The entries of expressions, if all of them are known.  Their keys have to be some. -/
def entriesFixed (value : Expr → Run (Option Value)) :
    List (Expr × Expr) → Run (Option (List (Value × Value)))
  | [] => return some []
  | (k, v) :: rest => do
    match ← allFixed value [k, v] with
    | some [k, v] => do
      Run.lift (checkKey deepest k)
      return (← entriesFixed value rest).map ((k, v) :: ·)
    | _ => return none

/-- The values of arguments, if all of them are known and can be given. -/
def argumentsFixed (value : Expr → Run (Option Value)) (arguments : List Argument) :
    Run (Option (List Value × Scope)) := do
  match ← allFixed value (arguments.map Argument.expr) with
  | none => return none
  | some values =>
    let known := (arguments.zip values).map fun (a, v) => a.withExpr (.constant v)
    let given ← Run.attempt (argumentValues
      (fun e => match e with
        | .constant v => return v
        | _ => Run.fail .unfit) known)
    return given.toOption

/-- A computation as far as it succeeds. -/
def asFixed (x : Run Value) : Run (Option Value) := do
  return (← Run.attempt x).toOption

/-- A value that may be known, and what is worked out from it. -/
def thenFixed (x : Run (Option Value)) (f : Value → Run (Option Value)) : Run (Option Value) := do
  match ← x with
  | some v => f v
  | none => return none

/-- Comparisons of a value with others, the first that does not hold being the last. -/
def compareFixed (value : Expr → Run (Option Value)) (v : Value) :
    List (Comparison × Expr) → Run (Option Bool)
  | [] => return some true
  | (op, e) :: rest => do
    match ← value e with
    | none => return none
    | some next =>
      if ← compare op v next then compareFixed value next rest else return some false

/-- Whether two values that are written down are one: those of which there is only one each. -/
def sameWritten (a b : Value) : Bool :=
  sameObject a b &&
    match a with
    | .none | .truth _ | .tuple [] => true
    | .number n => -5 ≤ n && n ≤ 256
    | .text s => s.length ≤ 1 && s.toList.all fun c => c.toNat < 256
    | _ => false

/-- Whether a value with arguments has the property of a test. -/
def testFixed (name : String) (t : Test) (v : Value) (places : List Value) (named : Scope) :
    Run Value := do
  let held ← t.run v places named
  if name = "sameas" then
    return .truth (sameWritten v ((places ++ named.map Prod.snd).headD .none))
  else return .truth held

/-- The part of a value between two places; there is none where it has no such places. -/
def sliceFixed (v start stop step : Value) : Run (Option Value) := do
  match ← Run.attempt (sliceOf v start stop step) with
  | .ok v => return some v
  | .error .wrongKind => return some (.missing false)
  | .error _ => return none

/-- The value of an expression, if it is known beforehand.  While it varies whether values are
escaped, no filter or test is applied. -/
def fixedValue (varying : Bool) : (fuel : Nat) → Expr → Run (Option Value)
  | 0, _ => return none
  | fuel + 1, e =>
    let value := fixedValue varying fuel
    let quietly (x : Run (Option Value)) : Run (Option Value) := do
      return ((← Run.attempt x).toOption).join
    match e with
    | .constant v => return some v
    | .tuple items => do return (← allFixed value items).map .tuple
    | .list items => do
      match ← allFixed value items with
      | some items => return some (← newList items)
      | none => return none
    | .mapping entries => do
      match ← entriesFixed value entries with
      | some entries => do
        return some (← newMapping (← Run.reading fun w => withKeys w [] entries))
      | none => return none
    | .sign negative e =>
      quietly (thenFixed (value e) fun v => asFixed (Run.lift (signed negative v)))
    | .operate op left right =>
      quietly (thenFixed (value left) fun a =>
        thenFixed (value right) fun b => asFixed (operate op a b))
    | .join parts => do
      match ← allFixed value parts with
      | some values => do return some (.text (String.join (← values.mapM say)))
      | none => return none
    | .compare first others =>
      thenFixed (value first) fun v =>
        quietly (do return (← compareFixed value v others).map .truth)
    | .invert e =>
      quietly (thenFixed (value e) fun v => do
        return some (.truth (!(← isTrue v))))
    | .both left right =>
      thenFixed (value left) fun a => do
        if ← isTrue a then value right else return some a
    | .either left right =>
      thenFixed (value left) fun a => do
        if ← isTrue a then return some a else value right
    | .choose condition yes no =>
      thenFixed (value condition) fun c => do
        if ← isTrue c then value yes
        else
          match no with
          | some no => value no
          | none => return none
    | .item e key =>
      quietly (thenFixed (value e) fun v =>
        thenFixed (value key) fun k => asFixed (itemOf v k))
    | .part e name =>
      quietly (thenFixed (value e) fun v => asFixed (partOf v name))
    | .slice e start stop step =>
      let bound (e : Option Expr) : Expr := e.getD (.constant .none)
      quietly (do
        match ← allFixed value [e, bound start, bound stop, bound step] with
        | some [v, start, stop, step] => sliceFixed v start stop step
        | _ => return none)
    | .filter name e arguments =>
      if varying || !filterNames.contains name || laterFilters.contains name then return none
      else do
        match ← argumentsFixed value arguments with
        | none => return none
        | some (places, named) =>
          thenFixed (value e) fun v => asFixed (applyFilter name v places named)
    | .test name e arguments =>
      match varying, testOf? name with
      | false, some t => do
        match ← argumentsFixed value arguments with
        | none => return none
        | some (places, named) =>
          thenFixed (value e) fun v => asFixed (testFixed name t v places named)
      | _, _ => return none
    | .name _ => return none
    | .call _ _ => return none
    | .captured => return none

/-! ## Putting in -/

/-- The expression of a value, if its value can be written down. -/
def written? (w : World) : (fuel : Nat) → Value → Option Expr
  | 0, _ => none
  | fuel + 1, v =>
    match v with
    | .none | .truth _ | .number _ | .decimal _ | .complex _ | .text _ | .markup _
    | .range _ _ _ => some (.constant v)
    | .tuple items => (items.mapM (written? w fuel)).map .tuple
    | .list place => ((w.listAt place).mapM (written? w fuel)).map .list
    | .mapping place =>
      ((w.entriesAt place).mapM fun (k, v) => do
        return (← written? w fuel k, ← written? w fuel v)).map .mapping
    | _ => none

/-- An expression with all that is known beforehand put in. -/
def settled : (fuel : Nat) → Expr → Run Expr
  | 0, e => return e
  | fuel + 1, e => do
    let e ← e.changed (settled fuel)
    match ← fixedValue false (fuel + 1) e with
    | none => return e
    | some v => Run.reading fun w => .ok ((written? w deepest v).getD e)

/-- An expression with all that is known beforehand put in.  Of one that only holds others
nothing is worked out but these. -/
def settledWithin : (fuel : Nat) → Expr → Run Expr
  | 0, e => return e
  | fuel + 1, e =>
    match e with
    | .tuple _ | .list _ | .mapping _ => e.changed (settledWithin fuel)
    | e => settled (fuel + 1) e

end Tweaks.Banner
