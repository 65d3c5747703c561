import Tweaks.Banner.Test

/-!
# Filters by name

What a filter makes of a value and its arguments.  Some filters apply another one, or a test,
to each item of a value; what comes of it is given only once, and not before it is asked for.

Main results:

- `applyFilter_simple`: a filter that applies no others goes by the table.
-/

namespace Tweaks.Banner

/-! ## Filters that apply others -/

/-- The name that a value gives to a filter or test. -/
def usedName (v : Value) : Run String := do
  Run.lift (checkKey deepest v)
  Run.lift (orFault .unknownUse v.textOf?)

/-- The value of `format`: a text with its marks written. -/
def applyFormat (v : Value) (places : List Value) (named : Scope) : Run Value := do
  if !places.isEmpty && !named.isEmpty then Run.fail .unfit
  else
    let (isMarkup, s) ← textOf v
    let arguments ← (if named.isEmpty then pure (.tuple places)
      else newMapping (named.map fun (name, v) => (.text name, v)))
    writeMarks isMarkup (String.ofList s) arguments

/-- The value of a filter.  Those that apply others to items do so when their values are asked
for. -/
def applyFilter (name : String) (v : Value) (places : List Value) (named : Scope) :
    Run Value :=
  match simpleFilters.lookup name with
  | some f => f.run v places named
  | none =>
    if name = "format" then applyFormat v places named
    else if selectingFilters.contains name then
      newSupply "generator" (.asked name v places named)
    else Run.fail .unknownUse

/-! ## How values come about -/

/-- What `map` makes of items: what a path leads to, or the value of a filter. -/
def makingOfMap (places : List Value) (named : Scope) : Run Making := do
  match places, named.lookup "attribute" with
  | [], some part =>
    if named.any fun (name, _) => !(["attribute", "default"].contains name) then Run.fail .unfit
    else return .led (← Run.lift (pathOf part)) (option named "default")
  | [], none => Run.fail .unfit
  | name :: arguments, _ => return .filtered name arguments named

/-- What `select` and its kin make of items: those that have a property, or of which the part
that a path leads to has it. -/
def makingOfSelect (wanted byPart : Bool) (places : List Value) (named : Scope) : Run Making := do
  match byPart, places with
  | false, arguments => return .selected wanted [] arguments named
  | true, [] => Run.fail .unfit
  | true, part :: arguments =>
    return .selected wanted (← Run.lift (pathOf part)) arguments named

/-- What is made of the items of a value, unless it counts as false. -/
def madeUnlessFalse (v : Value) (making : Run Making) : Run Supply := do
  if ← isTrue v then
    let making ← making
    return .made (← Items.of v) making
  else return .plain (.fixed [])

/-- The supply that a filter makes of a value, once it is asked for. -/
def startSupply (filter : String) (v : Value) (places : List Value) (named : Scope) :
    Run Supply := do
  match filter with
  | "map" => madeUnlessFalse v (makingOfMap places named)
  | "select" => madeUnlessFalse v (makingOfSelect true false places named)
  | "reject" => madeUnlessFalse v (makingOfSelect false false places named)
  | "selectattr" => madeUnlessFalse v (makingOfSelect true true places named)
  | "rejectattr" => madeUnlessFalse v (makingOfSelect false true places named)
  | "slice" => return .plain (.fixed (← columnValues named v))
  | "batch" =>
    return .made (← Items.of v)
      (.rows (argumentOr named "linecount" .none) (option named "fill_with") [])
  | "unique" => do
    let sensitive ← flag named "case_sensitive" false
    let path ← Run.lift ((option named "attribute").elim (.ok []) pathOf)
    return .made (← Items.of v) (.distinct sensitive path [])
  | _ =>
    match v with
    | .missing _ => return .plain (.fixed [])
    | .mapping place | .proxy place =>
      return .plain (← Items.of (← newView .entries place))
    | _ => Run.fail .wrongKind

/-- Whether an item is to be kept: if it has the property of a test, or counts as true. -/
def keepsItem (arguments : List Value) (named : Scope) (v : Value) : Run Bool := do
  match arguments with
  | [] => isTrue v
  | name :: arguments =>
    match testOf? (← usedName name) with
    | some t => t.run v arguments named
    | none => Run.fail .unknownUse

/-- How it is found out whether an item meets the condition of a loop, and what its target holds
then. -/
abbrev Meeting := Env → Target → Expr → Value → Run (Option Value)

/-- What comes of an item, if anything, and what is made of those behind it. -/
def Making.ofItem (meets : Meeting) (v : Value) (making : Making) :
    Run (Option Value × Making) := do
  match making with
  | .led path other => return (some (← follow other path v), making)
  | .filtered name arguments named =>
    return (some (← applyFilter (← usedName name) v arguments named), making)
  | .selected wanted path arguments named => do
    let kept ← keepsItem arguments named (← follow none path v)
    return (if kept = wanted then some v else none, making)
  | .distinct sensitive path seen => do
    let key ← keyOf sensitive path v
    Run.lift (checkKey deepest key)
    if ← Run.reading fun w => isAmong w key seen then return (none, making)
    else return (some v, .distinct sensitive path (key :: seen))
  | .rows count fill row => do
    if ← compare .equal (.number row.length) count then
      return (some (← newList row), .rows count fill [v])
    else return (none, .rows count fill (row ++ [v]))
  | .met env target condition => return (← meets env target condition v, making)

/-- What comes behind all items: the last row, which may be filled up. -/
def Making.atEnd (making : Making) : Run (Option Value) := do
  match making with
  | .rows count fill row =>
    if row.isEmpty then return none
    else
      match fill with
      | none => return some (← newList row)
      | some fill => do
        if ← compare .less (.number row.length) count then
          let missing ← operate .subtract count (.number row.length)
          let n ← Run.lift (orFault .wrongKind missing.integerOf?)
          return some (← newList (row ++ List.replicate n.toNat fill))
        else return some (← newList row)
  | _ => return none

/-- The next value that is made of items, if there is one, and the supply behind it. -/
def nextMade (meets : Meeting) : (fuel : Nat) → Items → Making →
    Run (Option Value × Supply)
  | 0, _, _ => Run.fail .tooDeep
  | fuel + 1, items, making => do
    match ← items.next with
    | (none, _) => return (← making.atEnd, .plain (.fixed []))
    | (some v, items) => do
      match ← making.ofItem meets v with
      | (some made, making) => return (some made, .made items making)
      | (none, making) => nextMade meets fuel items making

/-- The next value of a supply, if there is one, and the supply behind it. -/
def Supply.next (meets : Meeting) (supply : Supply) : Run (Option Value × Supply) := do
  match supply with
  | .plain items => do
    let (v, items) ← items.next
    return (v, .plain items)
  | .asked filter v places named => do
    match ← startSupply filter v places named with
    | .made items making => nextMade meets patience items making
    | .plain items => do
      let (v, items) ← items.next
      return (v, .plain items)
    | other => return (none, other)
  | .awaited v env target condition => do
    nextMade meets patience (← Items.of v) (.met env target condition)
  | .made items making => nextMade meets patience items making

/-- The next value that the object at a place gives, if there is one. -/
def nextOfObject (meets : Meeting) (place : Nat) : Run (Option Value) := do
  match ← objectAt place with
  | .round r => r.advance place
  | .supply kind supply => do
    let (v, supply) ← supply.next meets
    setObject place (.supply kind supply)
    return v
  | _ => Run.fail .wrongKind

/-! ## Lemmas -/

/-- A filter that applies no others goes by the table. -/
theorem applyFilter_simple {name : String} {f : Filter} (h : simpleFilters.lookup name = some f)
    (v : Value) (places : List Value) (named : Scope) :
    applyFilter name v places named = f.run v places named := by
  simp [applyFilter, h]

end Tweaks.Banner
