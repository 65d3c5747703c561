import Tweaks.Banner.Filter.Basic

/-!
# Filters of items

What the filters make of lists, mappings and all else that has items: single ones, other
orders, groups and sums.
-/

namespace Tweaks.Banner

-- Sums of whole numbers start with the literal zero.
attribute [local instance (5000)] Zero.ofOfNat0

/-! ## Single items -/

/-- The first item that is still to come, if there is one; no other is taken. -/
def leadingItem (items : Items) : Run Value := do
  return (← items.next).1.getD (.missing false)

/-- What the first item of a value is. -/
def applyFirst (v : Value) : Run Value := do
  leadingItem (← Items.of v)

/-- What the last item of a value is, which must not be given only once. -/
def applyLast (v : Value) : Run Value := do
  match ← Items.ofEnd? v with
  | some items => leadingItem items
  | none => Run.fail .wrongKind

/-- What one of the items of a value is; the choice falls on the first. -/
def applyRandom (v : Value) : Run Value := do
  let _ ← lengthOf v
  match ← Run.attempt (Run.reading fun w => subscript w v (.number 0)) with
  | .ok item => return item
  | .error .noPlace => return .missing false
  | .error fault => Run.fail fault

/-- The item of a value that comes before all others, or behind all of them; of several the
first. -/
def applyExtreme (op : Comparison) (given : Scope) (v : Value) : Run Value := do
  let sensitive ← flag given "case_sensitive" false
  let path ← Run.lift ((option given "attribute").elim (.ok []) pathOf)
  let best ← foldItems (fun best item => do
    let key ← keyOf sensitive path item
    match best with
    | none => return some (key, item)
    | some (best, found) => do
      let isBetter ← Run.reading fun w => isOrdered w op key best
      return some (if isBetter then (key, item) else (best, found))) none v
  return (best.map Prod.snd).getD (.missing false)

/-! ## Other orders -/

/-- The value of `reverse`: a text, the items from the end as they are by then, or a list of
items that are given only once. -/
def applyReverse (v : Value) : Run Value := do
  match v with
  | .text s => return .text (String.ofList s.toList.reverse)
  | .markup s => return .markup (String.ofList s.toList.reverse)
  | v => do
    match ← Items.ofEnd? v with
    | some items => newSupply (backwardName v) (.plain items)
    | none => do
      match ← Run.attempt (itemsOf v) with
      | .ok items => newList items.reverse
      | .error .wrongKind => Run.fail .unfit
      | .error fault => Run.fail fault

/-- The paths that an argument gives, with commas between them. -/
def pathsOf (v : Value) : Except Fault (List (List Value)) :=
  match v.textOf? with
  | some s => mapOk (fun part => pathOf (.text (String.ofList part)))
      (Text.splitOn [','] (s.length + 1) s.toList)
  | none => (pathOf v).map fun path => [path]

/-- The value of `sort`. -/
def applySort (given : Scope) (v : Value) : Run Value := do
  let sensitive ← flag given "case_sensitive" false
  let paths ← Run.lift ((option given "attribute").elim (.ok [[]]) pathsOf)
  let items ← itemsOf v
  let reversed ← Run.lift (reversedArgument (given.lookup "reverse"))
  let keyed ← items.mapM fun item => do
    return (Value.tuple (← paths.mapM (keyOf sensitive · item)), item)
  newList (← Run.reading fun w => sortValues w reversed keyed)

/-- The value of `dictsort`: the entries of a mapping in the order of their keys or values. -/
def applyDictSort (given : Scope) (v : Value) : Run Value := do
  let by_ := argumentOr given "by" (.text "key")
  let sensitive ← flag given "case_sensitive" false
  let byKey ← Run.reading fun w => isEqual w by_ (.text "key")
  let byValue ← Run.reading fun w => isEqual w by_ (.text "value")
  if !byKey && !byValue then Run.fail .unfit
  else
    let pairs ← itemsOf (← entriesValue v)
    let reversed ← Run.lift (reversedArgument (given.lookup "reverse"))
    let keyed ← pairs.mapM fun pair => do
      let part ← Run.reading fun w => subscript w pair (.number (if byKey then 0 else 1))
      return (← keyOf sensitive [] part, pair)
    newList (← Run.reading fun w => sortValues w reversed keyed)

/-! ## Groups -/

/-- How many of so many items stand in each of some columns: those at the start hold one
more where they do not come out even. -/
def columnLengths (length columns : Nat) : List Nat :=
  (List.range columns).map fun i =>
    length / columns + if i < length % columns then 1 else 0

/-- Items in columns of the given lengths. -/
def columnsOf (lengths : List Nat) (items : List Value) : List (List Value) :=
  match lengths with
  | [] => []
  | n :: rest => items.take n :: columnsOf rest (items.drop n)

/-- Items in columns, as many as asked for, of which the shorter ones are filled up. -/
def columnValues (given : Scope) (v : Value) : Run (List Value) := do
  let slices := argumentOr given "slices" .none
  let items ← itemsOf v
  let _ ← operate .quotient (.number items.length) slices
  let n := (← Run.lift (orFault .wrongKind slices.integerOf?)).toNat
  let columns := columnsOf (columnLengths items.length n) items
  let extra := items.length % n
  (columns.zipIdx).mapM fun (column, i) =>
    newList (match option given "fill_with" with
      | some fill => if extra ≤ i then column ++ [fill] else column
      | none => column)

/-- Values with their keys in groups of those behind each other that have the same key. -/
def groupsOf (w : World) : List (Value × Value) → Except Fault (List (List Value))
  | [] => .ok []
  | (k, v) :: rest => do
    let groups ← groupsOf w rest
    match rest, groups with
    | (next, _) :: _, group :: others => do
      if ← isSame w k next then return (v :: group) :: others else return [v] :: groups
    | _, groups => return [v] :: groups

/-- The value of `groupby`: the items of a value in groups of those with the same key. -/
def applyGroupBy (given : Scope) (v : Value) : Run Value := do
  let path ← Run.lift (pathOf (argumentOr given "attribute" .none))
  let other := option given "default"
  let sensitive ← flag given "case_sensitive" false
  let items ← itemsOf v
  let keyed ← items.mapM fun item => do
    let k ← follow other path item
    return (if sensitive then k else inSmallLetters k, item)
  let groups ← Run.reading fun w => do groupsOf w (← sortByKeys (isOrdered w .less) keyed)
  newList (← groups.mapM fun group => do
    let key ← follow other path (group.headD .none)
    return .group key (← newList group))

/-! ## Sums -/

/-- The value of `sum`. -/
def applySum (given : Scope) (v : Value) : Run Value := do
  let path ← Run.lift ((option given "attribute").elim (.ok []) pathOf)
  let items ← Items.of v
  match argumentOr given "start" (.number 0) with
  | .text _ | .markup _ | .bytes _ => Run.fail .wrongKind
  | start => items.fold (fun sum item => do
      operate .add sum (← follow none path item)) patience start

/-! ## Parts -/

/-- The value of `attr`: what a value has under a name, but not under a key. -/
def applyAttr (given : Scope) (v : Value) : Run Value := do
  let name ← Run.lift (textArgument (argumentOr given "name" .none))
  if v.isMissing && !isSlotName name then Run.fail .missing
  else return (← attribute? v name).getD (.missing false)

/-- The value of `default`. -/
def applyDefault (given : Scope) (v : Value) : Run Value := do
  let other := argumentOr given "default_value" (.text "")
  if v.isMissing then return other
  else if ← flag given "boolean" false then
    if ← isTrue v then return v else return other
  else return v

/-- The value of `length`. -/
def applyLength (v : Value) : Run Value := do
  return .number (← lengthOf v)

/-! ## Table -/

/-- A filter that looks at nothing before its values are asked for. -/
def Filter.later (name : String) (parameters : List String) (required : Nat) : String × Filter :=
  (name, ⟨parameters, required, fun given v => newSupply "generator" (.asked name v [] given)⟩)

/-- The filters of items. -/
def itemFilters : Filters := [
  ("attr", ⟨["name"], 1, applyAttr⟩),
  Filter.later "batch" ["linecount", "fill_with"] 1,
  ("count", .plain applyLength),
  ("d", ⟨["default_value", "boolean"], 0, applyDefault⟩),
  ("default", ⟨["default_value", "boolean"], 0, applyDefault⟩),
  ("dictsort", ⟨["case_sensitive", "by", "reverse"], 0, applyDictSort⟩),
  ("first", .plain applyFirst),
  ("groupby", ⟨["attribute", "default", "case_sensitive"], 1, applyGroupBy⟩),
  Filter.later "items" [] 0,
  ("last", .plain applyLast),
  ("length", .plain applyLength),
  ("list", .plain fun v => do newList (← itemsOf v)),
  ("max", ⟨["case_sensitive", "attribute"], 0, applyExtreme .greater⟩),
  ("min", ⟨["case_sensitive", "attribute"], 0, applyExtreme .less⟩),
  ("random", .plain applyRandom),
  ("reverse", .plain applyReverse),
  Filter.later "slice" ["slices", "fill_with"] 1,
  ("sort", ⟨["reverse", "case_sensitive", "attribute"], 0, applySort⟩),
  ("sum", ⟨["attribute", "start"], 0, applySum⟩),
  Filter.later "unique" ["case_sensitive", "attribute"] 0]

end Tweaks.Banner
