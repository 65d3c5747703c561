import Tweaks.Banner.Method
import Tweaks.Banner.OctetMethod
import Tweaks.Decimal.Exact

/-!
# Operations by name

What values answer when they are asked by the names of operations: sums, comparisons, items,
signs and so on.  A value answers that an operation is unsupported where another one might know
it.
-/

namespace Tweaks.Banner

-- Powers of whole numbers are those of the core library.
attribute [local instance (5000)] instPowNat

/-! ## Arithmetic -/

/-- The operations by their names. -/
def operationNames : List (String × Operator) := [
  ("add", .add), ("sub", .subtract), ("mul", .multiply), ("truediv", .divide),
  ("floordiv", .quotient), ("mod", .remainder), ("pow", .power)]

/-- The operation that a name between low lines stands for, and whether the value that is asked
stands on its right. -/
def operationOf? (name : String) : Option (Operator × Bool) :=
  operationNames.findSome? fun (word, op) =>
    if name = "__" ++ word ++ "__" then some (op, false)
    else if name = "__r" ++ word ++ "__" then some (op, true)
    else none

/-- Whether values of a kind of numbers know what to do with another value. -/
def Kind.reckonsWith (k : Kind) (v : Value) : Bool :=
  match k, v with
  | .complex, .complex _ => true
  | .number, v => v.integerOf?.isSome
  | _, v => v.quantityOf?.isSome

/-- What a value of a kind answers to an operation with another one. -/
def answerOperation (k : Kind) (op : Operator) (isRight : Bool) (self other : Value) :
    Run Value := do
  let (a, b) := if isRight then (other, self) else (self, other)
  match k, op with
  | .missing _, _ => Run.fail .missing
  | .number, op | .decimal, op | .complex, op =>
    if k.reckonsWith other then operate op a b else return .unsupported
  | .text, .add =>
    match self.textOf?, other.textOf? with
    | some s, some t => return .text (s ++ t)
    | _, _ => Run.fail .wrongKind
  | .markup, .add => do
    match other with
    | .text _ | .markup _ => Run.lift (do orFault .wrongKind (← addTexts a b))
    | _ => return .unsupported
  | .bytes, .add | .list, .add | .tuple, .add => addOthers self other
  | .text, .remainder | .bytes, .remainder =>
    match isRight, self, other with
    | true, .bytes _, .bytes _ => operate .remainder other self
    | true, .text _, other =>
      match other.textOf? with
      | some s => writeMarks false s self
      | none => return .unsupported
    | true, _, _ => return .unsupported
    | false, self, other => operate .remainder self other
  | .markup, .remainder => operate .remainder self other
  | .text, .multiply | .markup, .multiply | .bytes, .multiply | .list, .multiply
  | .tuple, .multiply => do multiplyOther self (← Run.lift (orFault .wrongKind other.integerOf?))
  | .set, .subtract =>
    match other with
    | .set _ => setDifference a b
    | _ => return .unsupported
  | .view _, .subtract => setDifference a b
  | _, _ => Run.fail .wrongKind

/-- What numbers answer when they are asked for a quotient and what is left of it. -/
def answerDivision (k : Kind) (isRight : Bool) (self other : Value) : Run Value := do
  if k.reckonsWith other then
    let (a, b) := if isRight then (other, self) else (self, other)
    return .tuple [← operate .quotient a b, ← operate .remainder a b]
  else return .unsupported

/-- The number by which another one has to be multiplied so that one is left by a third. -/
def inverseTo? (a m : Nat) : (fuel : Nat) → (r s x y : Int) → Option Int
  | 0, _, _, _, _ => none
  | fuel + 1, r, s, x, y =>
    if s = 0 then (if r = 1 then some (x % m) else none)
    else inverseTo? a m fuel s (r % s) y (x - r / s * y)

/-- A power as it is left by a number: squares are taken, and what is left of them. -/
def powerLeft (base exponent m : Nat) : Nat :=
  (Nat.toDigits 2 exponent).foldl (fun n d =>
    let n := n * n % m
    if d = '1' then n * base % m else n) (1 % m)

/-- What is left of a power by a third number. -/
def leftOfPower (a b m : Int) : Except Fault Value := do
  if m = 0 then .error .wrongValue
  else
    let size := m.natAbs
    let base := (a % size).toNat
    let base ← (if b < 0 then
        (orFault .wrongValue (inverseTo? base size (2 * size.log2 + 4) base size 1 0)).map (·.toNat)
      else .ok base)
    let n : Int := powerLeft base b.natAbs size
    return .number (if m < 0 && n ≠ 0 then n + m else n)

/-- What numbers answer when they are asked for a power, be it what is left of one by a third
number. -/
def answerPower (k : Kind) (isRight : Bool) (self : Value) (places : List Value) : Run Value :=
  match places with
  | [other] | [other, .none] => answerOperation k .power isRight self other
  | [other, m] =>
    let (a, b) := if isRight then (other, self) else (self, other)
    match k with
    | .number =>
      match a.integerOf?, b.integerOf?, m.integerOf? with
      | some a, some b, some m => Run.lift (leftOfPower a b m)
      | _, _, _ => return .unsupported
    | .missing _ => Run.fail .missing
    | .complex => Run.fail .wrongValue
    | _ => Run.fail .wrongKind
  | _ => Run.fail .wrongKind

/-! ## Bits and sets -/

/-- What comes of the bits of two numbers by an operation. -/
def bitsOf? (name : String) : Option (Nat → Nat → Nat) :=
  match name with
  | "and" => some (· &&& ·)
  | "or" => some (· ||| ·)
  | "xor" => some (· ^^^ ·)
  | _ => none

/-- The bits of a number moved to higher places. -/
def shiftUp (n by_ : Int) : Except Fault Value :=
  if by_ < 0 then .error .wrongValue
  else if n = 0 then .ok (.number 0)
  else if widest < by_ then .error .tooMuch
  else .ok (.number (n * 2 ^ by_.toNat))

/-- The bits of a number moved to lower places. -/
def shiftDown (n by_ : Int) : Except Fault Value :=
  if by_ < 0 then .error .wrongValue
  else if n.natAbs.log2 < by_ then .ok (.number (if n < 0 then -1 else 0))
  else .ok (.number (n.fdiv (2 ^ by_.toNat)))

/-- What two whole numbers or truth values answer to an operation on bits. -/
def answerBits (k : Kind) (name : String) (a b : Value) : Run Value :=
  match a.integerOf?, b.integerOf?, bitsOf? name with
  | some m, some n, some f =>
    let n := Decimal.combineBits f m n
    match k, a, b with
    | .truth, .truth _, .truth _ => return .truth (n ≠ 0)
    | _, _, _ => return .number n
  | some m, some n, none =>
    Run.lift (if name = "lshift" then shiftUp m n else shiftDown m n)
  | _, _, _ => return .unsupported

/-- The set that the members of two values make. -/
def combineSets (name : String) (a b : Value) : Run Value := do
  let members ← viewMembers a
  match name with
  | "or" => do newSet ⟨← combined withMembers members.items [b], members.size⟩
  | "xor" => do newSet ⟨← combined oddMembers members.items [b], members.size⟩
  | _ => do
    let others ← itemsOf b
    let common ← Run.reading fun w => do
      others.forM (checkKey deepest)
      commonMembers w members.items (← withMembers w [] others)
    newSet ⟨common, 8⟩

/-- A mapping with the entries of two of them. -/
def combineMappings (a b : Nat) : Run Value := do
  let entries ← entriesAt a
  newMapping (← gatherEntries entries (.mapping b))

/-- What values answer to an operation on bits or members. -/
def answerJoint (k : Kind) (name : String) (isRight : Bool) (self other : Value) : Run Value :=
  let (a, b) := if isRight then (other, self) else (self, other)
  match k with
  | .number | .truth => answerBits k name a b
  | .set =>
    match other with
    | .set _ => combineSets name a b
    | _ => return .unsupported
  | .view _ => combineSets name a b
  | .mapping =>
    match a, b with
    | .mapping s, .mapping t => combineMappings s t
    | _, _ => return .unsupported
  | .proxy =>
    match mappingPlace? a, mappingPlace? b with
    | some s, some t => combineMappings s t
    | _, _ => Run.fail .wrongKind
  | .missing _ => Run.fail .missing
  | _ => Run.fail .wrongKind

/-- The operation on bits or members that a name between low lines stands for, and whether the
value that is asked stands on its right. -/
def jointOf? (name : String) : Option (String × Bool) :=
  ["and", "or", "xor", "lshift", "rshift"].findSome? fun word =>
    if name = "__" ++ word ++ "__" then some (word, false)
    else if name = "__r" ++ word ++ "__" then some (word, true)
    else none

/-! ## Comparisons -/

/-- The comparison that a name stands for. -/
def comparisonOf? (name : String) : Option Comparison :=
  [("__eq__", .equal), ("__ne__", .unequal), ("__lt__", .less), ("__le__", .atMost),
    ("__gt__", .greater), ("__ge__", Comparison.atLeast)].lookup name

/-- Whether values are functions of values that are given at one time. -/
def isMethod (v : Value) : Bool :=
  match v with
  | .method _ _ _ => true
  | _ => false

/-- Whether values of a kind know how they compare with another value. -/
def Kind.comparesWith (k : Kind) (op : Comparison) (self other : Value) : Bool :=
  let isOrder := op ≠ .equal && op ≠ .unequal
  match k, other with
  | .number, other => other.integerOf?.isSome
  | .decimal, other => other.quantityOf?.isSome
  | .complex, .complex _ => !isOrder
  | .complex, other => !isOrder && other.quantityOf?.isSome
  | .text, other => other.textOf?.isSome
  | .bytes, .bytes _ => true
  | .list, .list _ => true
  | .tuple, other => other.tupleOf?.isSome
  | .range, .range _ _ _ => !isOrder
  | .mapping, .mapping _ => !isOrder
  | .proxy, _ => true
  | .set, .set _ => true
  | .view .values, other => !isOrder && sameObject self other
  | .view _, other => isSetLike other
  | .alias, .alias _ _ => !isOrder
  | .bytes, _ | .list, _ | .range, _ | .mapping, _ | .set, _ | .alias, _ => false
  | _, other => !isOrder && (sameObject self other || isMethod self && isMethod other)

/-- What a value of a kind answers to a comparison with another one. -/
def answerComparison (k : Kind) (op : Comparison) (self other : Value) : Run Value :=
  match k, op with
  | .missing true, .equal => return .truth other.isLenient
  | .missing true, .unequal => return .truth (!other.isLenient)
  | .missing _, _ => Run.fail .missing
  | k, op =>
    if k.comparesWith op self other then do return .truth (← compare op self other)
    else return .unsupported

/-! ## Items -/

/-- The name of the kind of supplies that give the items of a value. -/
def supplyName (v : Value) : String :=
  match v with
  | .text s | .markup s => if s.toList.all fun c => c.toNat < 128 then "str_ascii_iterator"
      else "str_iterator"
  | .bytes _ => "bytes_iterator"
  | .tuple _ | .group _ _ => "tuple_iterator"
  | .range _ _ _ => "range_iterator"
  | .list _ => "list_iterator"
  | .set _ => "set_iterator"
  | .view .values _ _ => "dict_valueiterator"
  | .view .entries _ _ => "dict_itemiterator"
  | .mapping _ | .proxy _ | .view .keys _ _ => "dict_keyiterator"
  | _ => "generator"

/-- The name of the kind of supplies that give the items of a value from its end. -/
def backwardName (v : Value) : String :=
  match v with
  | .list _ => "list_reverseiterator"
  | .range _ _ _ => "range_iterator"
  | .view .values _ _ => "dict_reversevalueiterator"
  | .view .entries _ _ => "dict_reverseitemiterator"
  | .mapping _ | .proxy _ | .view .keys _ _ => "dict_reversekeyiterator"
  | _ => "reversed"

/-- A supply of the items of a value; one that gives its items only once is its own. -/
def supplyOf (v : Value) : Run Value := do
  match v with
  | .object _ => do
    let _ ← Items.of v
    return v
  | v => newSupply (supplyName v) (.plain (← Items.of v))

/-- A supply of the items of a value from its end. -/
def backwardSupply (v : Value) : Run Value := do
  match ← Items.ofEnd? v with
  | some items => newSupply (backwardName v) (.plain items)
  | none => Run.fail .wrongKind

/-- The number of items that are still to come, as far as it is known. -/
def Items.left (items : Items) : Run Nat := fun _ w =>
  .ok (match items with
    | .fixed rest => rest.length
    | .counted _ _ count => count
    | .listed place index => (w.listAt place).length - index
    | .backwards _ index => index
    | .shown _ _ count before => count - before.length
    | .shownBackwards _ _ _ index => index
    | .members _ count index => count - index
    | .given _ => 0, w)

/-- Gives a list another item at a place, or takes one away. -/
def changeItem (place : Nat) (key : Value) (v : Option Value) : Run Value := do
  let items ← listAt place
  let n ← Run.lift (orFault .wrongKind key.integerOf?)
  let i ← Run.lift (orFault .noPlace (Value.placeOf? items.length n))
  setList place (match v with
    | some v => items.set i v
    | none => items.eraseIdx i)
  return .none

/-- Gives a mapping another entry, or takes one away. -/
def changeEntry (place : Nat) (key : Value) (v : Option Value) : Run Value := do
  let entries ← entriesAt place
  Run.lift (checkKey deepest key)
  match v with
  | some v => do setEntries place (← Run.reading fun w => withKey w key v entries)
  | none => do
    match ← Run.reading fun w => takeKey w key entries with
    | some (_, rest) => setEntries place rest
    | none => Run.fail .noKey
  return .none

/-- What a value answers when it is asked to have another value under a key or at a place, or
none. -/
def answerChange (self key : Value) (v : Option Value) : Run Value := do
  match self with
  | .list place => changeItem place key v
  | .mapping place => changeEntry place key v
  | .object place => do
    match ← objectAt place with
    | .record entries => changeEntry entries key v
    | _ => Run.fail .wrongKind
  | _ => Run.fail .wrongKind

/-- What a value answers when it is asked for the next one that it gives. -/
def answerNext (self : Value) : Run Value := do
  match self with
  | .object place => do
    match ← nextGiven place with
    | some v => return v
    | none => Run.fail .spent
  | _ => Run.fail .wrongKind

/-! ## Operations that change a value -/

/-- What a value answers when it is asked to take another one into itself. -/
def answerGrowth (name : String) (self other : Value) : Run Value := do
  match self, name with
  | .list place, "__iadd__" => do
    let more ← itemsOf other
    setList place ((← listAt place) ++ more)
    return self
  | .list place, "__imul__" => do
    let n ← Run.lift (orFault .wrongKind other.integerOf?)
    let items ← listAt place
    setList place (← Run.lift (repeatedItems items n))
    return self
  | .mapping place, "__ior__" => do
    setEntries place (← gatherEntries (← entriesAt place) other)
    return self
  | .set place, name =>
    match other with
    | .set _ => do
      let word := match name with
        | "__ior__" => "update"
        | "__iand__" => "intersection_update"
        | "__isub__" => "difference_update"
        | _ => "symmetric_difference_update"
      let _ ← setMethod place word [other]
      return self
    | _ => return .unsupported
  | _, _ => Run.fail .wrongKind

/-- What a value answers when it is asked to become what arguments say. -/
def answerStart (self : Value) (places : List Value) (named : Scope) : Run Value := do
  match self with
  | .list place => do
    match places, named with
    | [], [] => setList place []
    | [v], [] => do
      let items ← itemsOf v
      setList place items
    | _, _ => Run.fail .wrongKind
  | .mapping place => do setEntries place (← givenEntries (← entriesAt place) places named)
  | .set place => do
    match places, named with
    | [], [] => setMembers place ⟨[], 8⟩
    | [v], [] => do setMembers place (← membersOf v)
    | _, _ => Run.fail .wrongKind
  | .object place => do
    match ← objectAt place with
    | .cycle _ _ =>
      if !named.isEmpty then Run.fail .wrongKind
      else if places.isEmpty then Run.fail .noChoice
      else setObject place (.cycle places 0)
    | .separator _ _ => do
      let given ← Run.lift (bindArguments ["sep"] places named)
      setObject place (.separator ((given.lookup "sep").getD (.text ", ")) false)
    | .record entries => do setEntries entries (← givenEntries [] places named)
    | _ => pure ()
  | _ => pure ()
  return .none

/-! ## Answers without arguments -/

/-- The number by which a value goes into tables, as far as it is known. -/
def answerNumber (self : Value) : Run Value := do
  match self with
  | .missing false => Run.fail .missing
  | self => do
    Run.lift (checkKey deepest self)
    return .number ((valueNumber? self).getD 0)

/-- The arguments of which a value can be made again. -/
def madeOf (self : Value) : Value :=
  match self with
  | .complex x => .tuple [.decimal x.real, .decimal x.imaginary]
  | .truth b => .tuple [.number (if b then 1 else 0)]
  | self => .tuple [self]

/-- How a value can be made again: its kind and what it is made of. -/
def reductionOf (self : Value) : Run Value := do
  match self with
  | .range first last step =>
    return .tuple [.kind .range, .tuple [.number first, .number last, .number step]]
  | .set place => do
    let items ← newList (← Run.reading fun w => .ok (w.membersAt place))
    return .tuple [.kind .set, .tuple [items], .none]
  | .unsupported => return .text "NotImplemented"
  | _ => Run.fail .wrongKind

/-- What a value answers without arguments to the name of an operation. -/
def answerAlone (k : Kind) (name : String) (self : Value) : Run Value := do
  let lift (x : Except Fault Value) : Run Value := Run.lift x
  match k, name with
  | .missing _, "__repr__" => return .text "Undefined"
  | .missing false, _ => Run.fail .missing
  | _, "__repr__" => do return .text (← shown self)
  | .text, "__str__" => do return .text (← say self)
  | .missing true, "__str__" => return .text ""
  | _, "__str__" => do return .text (← shown self)
  | _, "__hash__" => answerNumber self
  | _, "__len__" => do return .number (← lengthOf self)
  | _, "__bool__" => do return .truth (← isTrue self)
  | _, "__iter__" => supplyOf self
  | _, "__next__" => answerNext self
  | _, "__reversed__" => backwardSupply self
  | _, "__length_hint__" => do
    match self with
    | .object place => do
      match ← objectAt place with
      | .supply _ (.plain items) => do return .number (← items.left)
      | _ => return .number 0
    | _ => Run.fail .wrongKind
  | _, "__html__" => return self
  | _, "__bytes__" | _, "__complex__" => return self
  | _, "__abs__" => lift (magnitudeOf self)
  | _, "__neg__" => lift (signed true self)
  | _, "__pos__" => lift (signed false self)
  | _, "__invert__" => lift (do return .number (-(← orFault .wrongKind self.integerOf?) - 1))
  | _, "__int__" | _, "__trunc__" | _, "__index__" => lift ((wholeOf self).map .number)
  | _, "__float__" => lift ((decimalOf self).map .decimal)
  | _, "__ceil__" => lift (wholeBeside true self)
  | _, "__floor__" => lift (wholeBeside false self)
  | _, "__round__" => lift (roundTo self .none)
  | _, "__getnewargs__" => return madeOf self
  | _, "__getstate__" => return .none
  | _, "__reduce__" => reductionOf self
  | _, _ => Run.fail .wrongKind

/-! ## All answers -/

/-- What a value answers by a kind to which it belongs when it is asked by the name of an
operation. -/
def answerSlot (k : Kind) (name : String) (self : Value) (places : List Value) (named : Scope) :
    Run Value := do
  match name with
  | "__call__" => callGiven self places named
  | "__init__" => answerStart self places named
  | name =>
    if !named.isEmpty then Run.fail .wrongKind
    else
      match comparisonOf? name, operationOf? name, jointOf? name, places with
      | some op, _, _, [other] => answerComparison k op self other
      | _, some (.power, isRight), _, places => answerPower k isRight self places
      | _, some (op, isRight), _, [other] => answerOperation k op isRight self other
      | _, _, some (word, isRight), [other] => answerJoint k word isRight self other
      | _, _, _, places =>
        match name, places with
        | "__divmod__", [other] => answerDivision k false self other
        | "__rdivmod__", [other] => answerDivision k true self other
        | "__contains__", [v] => do return .truth (← isWithin v self)
        | "__getitem__", [key] => Run.reading fun w => subscript w self key
        | "__setitem__", [key, v] => answerChange self key (some v)
        | "__delitem__", [key] => answerChange self key none
        | "__format__", [layout] => do
          let layout ← Run.lift (textArgument layout)
          return .text (← layValue self layout)
        | "__html_format__", [layout] => do
          if ← isTrue layout then Run.fail .wrongValue else return self
        | "__round__", [.none] =>
          Run.lift (if self.isDecimal then roundTo self .none else .error .wrongKind)
        | "__round__", [n] => Run.lift (roundTo self n)
        | "__getattribute__", [name] => do
          let name ← Run.lift (textArgument name)
          match ← attribute? self name with
          | some v => return v
          | none => Run.fail .noPart
        | "__setattr__", [_, _] | "__delattr__", [_] => Run.fail .noPart
        | "__iadd__", [v] | "__imul__", [v] | "__ior__", [v] | "__iand__", [v] | "__isub__", [v]
        | "__ixor__", [v] => answerGrowth name self v
        | name, [] => answerAlone k name self
        | _, _ => Run.fail .wrongKind

end Tweaks.Banner
