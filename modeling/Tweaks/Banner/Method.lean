import Tweaks.Banner.Sorting
import Tweaks.Banner.TextMethod

/-!
# What lists, mappings and sets do

The answers of lists, mappings, their views, and sets to what they are asked by name.
-/

namespace Tweaks.Banner

/-! ## Lists -/

/-- The items of a list without the one at a place, and that item. -/
def takeAt (items : List Value) (place : Nat) : Option (Value × List Value) :=
  items[place]?.map fun v => (v, items.eraseIdx place)

/-- The place of the first item that a value equals, counted from the given number. -/
def findValue (w : World) (v : Value) (place : Nat) : List Value → Except Fault (Option Nat)
  | [] => .ok none
  | item :: rest => do
    if ← isSame w item v then return some place else findValue w v (place + 1) rest

/-- The place of a value among items, within bounds. -/
def indexOf (items : List Value) (v : Value) (bounds : List Value) : Run Value :=
  Run.reading fun w => do
    let bounds ← mapOk integerArgument bounds
    let start ← placeArgument items.length 0 (bounds[0]?.map .number)
    let stop ← placeArgument items.length items.length (bounds[1]?.map .number)
    if 2 < bounds.length then .error .wrongKind
    let found ← findValue w v start ((items.take stop).drop start)
    return .number (← orFault .wrongValue found)

/-- How often a value is among items. -/
def countValue (items : List Value) (v : Value) : Run Value :=
  Run.reading fun w => do
    let held ← mapOk (fun item => isSame w item v) items
    return .number (held.filter id).length

/-- Whether an argument asks for the opposite order: a number that is not zero. -/
def reversedArgument (v : Option Value) : Except Fault Bool :=
  match v with
  | none => .ok false
  | some v => (smallArgument v).map (· ≠ 0)

/-- The order of a list that its arguments ask for, by what another value answers for each
item if there is one. -/
def sortedItems (items : List Value) (named : Scope) : Run (List Value) := do
  let given ← Run.lift (bindArguments ["reverse", "key"] [] named)
  let reversed ← Run.lift (reversedArgument (given.lookup "reverse"))
  let keyed ← (match given.lookup "key" with
    | none | some .none => return items.map fun v => (v, v)
    | some key => items.mapM fun v => do return (← callGiven key [v] [], v))
  Run.reading fun w => sortValues w reversed keyed

/-- What a list answers when it is asked by name. -/
def listMethod (place : Nat) (name : String) (places : List Value) (named : Scope) :
    Run Value := do
  let items ← listAt place
  let change (items : List Value) : Run Value := do
    setList place items
    return .none
  match name, places, named with
  | "sort", [], named => do change (← sortedItems items named)
  | "append", [v], [] => change (items ++ [v])
  | "clear", [], [] => change []
  | "copy", [], [] => newList items
  | "count", [v], [] => countValue items v
  | "extend", [v], [] => do
    let more ← itemsOf v
    change (items ++ more)
  | "index", v :: bounds, [] => indexOf items v bounds
  | "insert", [n, v], [] => do
    let n ← Run.lift (sizeArgument n)
    let i ← Run.lift (placeArgument items.length 0 (some (.number n)))
    change (items.take i ++ v :: items.drop i)
  | "pop", places, [] =>
    if 1 < places.length then Run.fail .wrongKind
    else do
      let n ← Run.lift (match places with
        | [] => .ok (-1)
        | v :: _ => sizeArgument v)
      match (Value.placeOf? items.length n).bind (takeAt items) with
      | some (v, rest) => do
        setList place rest
        return v
      | none => Run.fail .noPlace
  | "remove", [v], [] => do
    match ← Run.reading fun w => findValue w v 0 items with
    | some i => change (items.eraseIdx i)
    | none => Run.fail .wrongValue
  | "reverse", [], [] => change items.reverse
  | _, _, _ => Run.fail .wrongKind

/-- What items that cannot be changed answer. -/
def tupleMethod (items : List Value) (name : String) (places : List Value) : Run Value :=
  match name, places with
  | "count", [v] => countValue items v
  | "index", v :: bounds => indexOf items v bounds
  | _, _ => Run.fail .wrongKind

/-- What a range answers. -/
def rangeMethod (first last step : Int) (name : String) (places : List Value) : Run Value := do
  match name, places with
  | "count", [v] => return .number (if ← isWithinRange v first last step then 1 else 0)
  | "index", [v] => do
    if ← isWithinRange v first last step then
      let n ← Run.lift (match v with
        | .complex x => .ok (Decimal.truncated x.real)
        | v => wholeOf v)
      return .number ((n - first) / step)
    else Run.fail .wrongValue
  | _, _ => Run.fail .wrongKind

/-! ## Mappings -/

/-- Entries with those that a value stands for, the entries of a mapping or pairs, set after
them one by one. -/
def gatherEntries (entries : List (Value × Value)) (v : Value) :
    Run (List (Value × Value)) := do
  match v with
  | .mapping place | .proxy place => Run.reading fun w => withKeys w entries (w.entriesAt place)
  | v =>
    foldItems (fun entries item => do
      match ← itemsOf item with
      | [k, v] => Run.reading fun w => withKeys w entries [(k, v)]
      | _ => Run.fail .wrongValue) entries v

/-- Entries with those that arguments give: of at most one value, and by name. -/
def givenEntries (entries : List (Value × Value)) (places : List Value) (named : Scope) :
    Run (List (Value × Value)) := do
  let entries ← (match places with
    | [] => return entries
    | [v] => gatherEntries entries v
    | _ => Run.fail .wrongKind)
  Run.reading fun w => withKeys w entries (named.map fun (name, v) => (.text name, v))

/-- The entries without the one under a key, and its value. -/
def takeKey (w : World) (k : Value) : List (Value × Value) →
    Except Fault (Option (Value × List (Value × Value)))
  | [] => .ok none
  | (k', v) :: rest => do
    if ← isSame w k k' then return some (v, rest)
    else
      match ← takeKey w k rest with
      | some (found, rest) => return some (found, (k', v) :: rest)
      | none => return none

/-- What a mapping answers that is only read. -/
def proxyMethod (place : Nat) (name : String) (places : List Value) : Run Value := do
  let entries ← entriesAt place
  match name, places with
  | "copy", [] => newMapping entries
  | "get", k :: other =>
    if 1 < other.length then Run.fail .wrongKind
    else Run.reading fun w => do return (← lookUp w k entries).getD (other.headD .none)
  | "items", [] => newView .entries place
  | "keys", [] => newView .keys place
  | "values", [] => newView .values place
  | _, _ => Run.fail .wrongKind

/-- What a mapping answers when it is asked by name. -/
def mappingMethod (place : Nat) (name : String) (places : List Value) (named : Scope) :
    Run Value := do
  let entries ← entriesAt place
  match name, places, named with
  | "update", places, named => do
    setEntries place (← givenEntries entries places named)
    return .none
  | "clear", [], [] => do
    setEntries place []
    return .none
  | "pop", k :: other, [] =>
    if 1 < other.length then Run.fail .wrongKind
    else do
      Run.lift (checkKey deepest k)
      match ← Run.reading fun w => takeKey w k entries, other with
      | some (v, rest), _ => do
        setEntries place rest
        return v
      | none, [v] => return v
      | none, _ => Run.fail .noKey
  | "popitem", [], [] =>
    match entries.getLast? with
    | some (k, v) => do
      setEntries place entries.dropLast
      return .tuple [k, v]
    | none => Run.fail .noKey
  | "setdefault", k :: other, [] =>
    if 1 < other.length then Run.fail .wrongKind
    else do
      match ← Run.reading fun w => lookUp w k entries with
      | some v => return v
      | none => do
        let v := other.headD .none
        setEntries place (entries ++ [(k, v)])
        return v
  | name, places, [] => proxyMethod place name places
  | _, _, _ => Run.fail .wrongKind

/-! ## Sets -/

/-- Whether no item of a value is among some members. -/
def isApart (items : List Value) (v : Value) : Run Bool := do
  let others ← itemsOf v
  Run.reading fun w => do
    others.forM (checkKey deepest)
    return (← commonMembers w others items).isEmpty

/-- Members with the items of values, or without them. -/
def combined (step : World → List Value → List Value → Except Fault (List Value)) :
    List Value → List Value → Run (List Value)
  | items, [] => return items
  | items, v :: rest => do
    let others ← itemsOf v
    let items ← Run.reading fun w => do
      others.forM (checkKey deepest)
      step w items others
    combined step items rest

/-- The members of which only one side has an equal one. -/
def oddMembers (w : World) (items others : List Value) : Except Fault (List Value) := do
  let others ← withMembers w [] others
  return (← withoutMembers w others items) ++ (← withoutMembers w items others)

/-- What a set answers when it is asked by name. -/
def setMethod (place : Nat) (name : String) (places : List Value) : Run Value := do
  let members ← setAt place
  let items := members.items
  let change (items : List Value) : Run Value := do
    setMembers place ⟨items, members.size⟩
    return .none
  let fresh (items : List Value) : Run Value := newSet ⟨items, members.size⟩
  let without (w : World) (items others : List Value) := withoutMembers w others items
  let common (w : World) (items others : List Value) := commonMembers w others items
  match name, places with
  | "add", [v] => do change (← Run.reading fun w => withMember w items v)
  | "clear", [] => do
    setMembers place ⟨[], 8⟩
    return .none
  | "copy", [] => fresh items
  | "union", others => do fresh (← combined withMembers items others)
  | "update", others => do change (← combined withMembers items others)
  | "difference", others => do fresh (← combined without items others)
  | "difference_update", others => do change (← combined without items others)
  | "intersection", others => do fresh (← combined common items others)
  | "intersection_update", others => do change (← combined common items others)
  | "symmetric_difference", [v] => do fresh (← combined oddMembers items [v])
  | "symmetric_difference_update", [v] => do change (← combined oddMembers items [v])
  | "discard", [v] => do
    change (← Run.reading fun w => do
      checkKey deepest v
      withoutMembers w [v] items)
  | "remove", [v] => do
    let left ← Run.reading fun w => do
      checkKey deepest v
      withoutMembers w [v] items
    if left.length = items.length then Run.fail .noKey else change left
  | "pop", [] => do
    match ← Run.reading fun w => .ok (w.membersAt place) with
    | v :: rest => do
      setMembers place ⟨rest, members.size⟩
      return v
    | [] => Run.fail .noKey
  | "isdisjoint", [v] => return .truth (← isApart items v)
  | "issubset", [v] => do
    let others ← itemsOf v
    Run.reading fun w => do
      let others ← withMembers w [] others
      return .truth (← isPartOf w false items others)
  | "issuperset", [v] => do
    let others ← itemsOf v
    Run.reading fun w => do
      let others ← withMembers w [] others
      return .truth (← isPartOf w false others items)
  | _, _ => Run.fail .wrongKind

/-- What a view of a mapping answers. -/
def viewMethod (view : View) (place : Nat) (name : String) (places : List Value) :
    Run Value := do
  match name, places with
  | "isdisjoint", [v] => do
    let items := viewItems view (← entriesAt place)
    let others ← itemsOf v
    return .truth (← Run.reading fun w => do return (← commonMembers w others items).isEmpty)
  | _, _ => Run.fail .wrongKind

end Tweaks.Banner
