import Tweaks.Banner.Marks
import Tweaks.Banner.Part
import Tweaks.Text.Replace

/-!
# Operations on values

Sums, products and powers of numbers, joined and repeated texts and lists, texts with
marks to be written, and comparisons.
-/

namespace Tweaks.Banner

-- Powers of whole numbers are those of the core library.
attribute [local instance (5000)] instPowNat

/-! ## Numbers -/

/-- A power of decimal numbers.  Of a negative number it may be complex. -/
def powerOf (x y : Float) : Except Fault Value :=
  if x == 0 && y < 0 then .error .divisionByZero
  else if x < 0 && !x.isInf && !y.isInf && !y.isNaN && y.floor != y then
    .ok (.complex (Decimal.Complex.powerAny (.ofReal x) (.ofReal y)))
  else
    let z := x.pow y
    if z.isInf && !x.isInf && !y.isInf then .error .tooLarge
    else .ok (.decimal z)

/-- The value of an operation on two decimal numbers. -/
def operateDecimals (op : Operator) (a b : Float) : Except Fault Value :=
  match op with
  | .add => .ok (.decimal (a + b))
  | .subtract => .ok (.decimal (a - b))
  | .multiply => .ok (.decimal (a * b))
  | .divide => if b == 0 then .error .divisionByZero else .ok (.decimal (a / b))
  | .quotient =>
    if b == 0 then .error .divisionByZero else .ok (.decimal (Decimal.divideFloor a b).1)
  | .remainder =>
    if b == 0 then .error .divisionByZero else .ok (.decimal (Decimal.divideFloor a b).2)
  | .power => powerOf a b

/-- A power of a whole number.  Those of zero and one need no steps. -/
def wholePower (a : Int) (n : Nat) : Int :=
  if a.natAbs ≤ 1 then if n = 0 then 1 else if n % 2 = 0 then a * a else a else a ^ n

/-- The value of an operation on two whole numbers. -/
def operateNumbers (op : Operator) (a b : Int) : Except Fault Value :=
  match op with
  | .add => .ok (.number (a + b))
  | .subtract => .ok (.number (a - b))
  | .multiply => .ok (.number (a * b))
  | .divide =>
    if b = 0 then .error .divisionByZero
    else (orFault .tooLarge (Decimal.quotient? a b)).map .decimal
  | .quotient => if b = 0 then .error .divisionByZero else .ok (.number (a.fdiv b))
  | .remainder => if b = 0 then .error .divisionByZero else .ok (.number (a.fmod b))
  | .power =>
    if b < 0 then do
      powerOf (← orFault .tooLarge (Decimal.ofInteger? a))
        (← orFault .tooLarge (Decimal.ofInteger? b))
    else .ok (.number (wholePower a b.toNat))

/-- The value of an operation on two numbers. -/
def operateQuantities (op : Operator) (a b : Quantity) : Except Fault Value :=
  match a, b with
  | .inl m, .inl n => operateNumbers op m n
  | .inl m, .inr y => do operateDecimals op (← orFault .tooLarge (Decimal.ofInteger? m)) y
  | .inr x, .inl n => do operateDecimals op x (← orFault .tooLarge (Decimal.ofInteger? n))
  | .inr x, .inr y => operateDecimals op x y

/-! ## Texts and lists -/

/-- The first number of items that there never are. -/
def mostItems : Int := 2 ^ (63 : Nat)

/-- The number of items of something of a length, as often as asked for. -/
def timesOf (length : Nat) (n : Int) : Except Fault Nat :=
  if mostItems ≤ n || n < -mostItems then .error .tooLarge
  else if 0 < length && widest < n * length then .error .tooMuch
  else .ok n.toNat

/-- A text several times. -/
def repeated (s : String) (n : Int) : Except Fault String := do
  return String.join (List.replicate (← timesOf s.length n) s)

/-- Items several times. -/
def repeatedItems (items : List Value) (n : Int) : Except Fault (List Value) := do
  return (List.replicate (← timesOf items.length n) items).flatten

/-- What a mapping has under the name in a mark. -/
def markPart (key : List Char → Value) (v : Value) (name : List Char) : Run Value :=
  match v with
  | .mapping place | .proxy place => Run.reading fun w => do
    orFault .noKey (← lookUp w (key name) (w.entriesAt place))
  | .missing _ => Run.fail .missing
  | _ => Run.fail .wrongKind

/-- A value with its marks written in a text; those of marked-up text are escaped. -/
def writeMarks (isMarkup : Bool) (s : String) (v : Value) : Run Value := do
  let spelling := if isMarkup then Spelling.markup else Spelling.plain
  let written ← fillMarks spelling (markPart fun name => .text (String.ofList name))
    (s.length + 1) (Wanted.of v) s.toList
  return if isMarkup then .markup (String.ofList written) else .text (String.ofList written)

/-- The octets for which characters stand. -/
def octetsOf (s : List Char) : List UInt8 :=
  s.map fun c => UInt8.ofNat c.toNat

/-- A value with its marks written in octets. -/
def writeOctetMarks (b : List UInt8) (v : Value) : Run Value := do
  let wanted := match v with
    | .bytes _ => ⟨[v], none⟩
    | v => Wanted.of v
  let written ← fillMarks .octets (markPart fun name => .bytes (octetsOf name))
    (b.length + 1) wanted (b.map octetChar)
  return .bytes (octetsOf written)

/-- The sum of two texts.  What is added to marked-up text is escaped. -/
def addTexts (a b : Value) : Except Fault (Option Value) :=
  match a, b with
  | .text s, .text t => .ok (some (.text (s ++ t)))
  | .markup s, .text t => .ok (some (.markup (s ++ escapeText t)))
  | .text s, .markup t => .ok (some (.markup (escapeText s ++ t)))
  | .markup s, .markup t => .ok (some (.markup (s ++ t)))
  | _, _ => .ok none

/-- The sum of two values that are no numbers. -/
def addOthers (a b : Value) : Run Value := do
  match ← Run.lift (addTexts a b) with
  | some sum => return sum
  | none =>
    match a, b with
    | .list s, .list t => do newList ((← listAt s) ++ (← listAt t))
    | .bytes s, .bytes t => return .bytes (s ++ t)
    | a, b =>
      match a.tupleOf?, b.tupleOf? with
      | some s, some t => return .tuple (s ++ t)
      | _, _ => Run.fail .wrongKind

/-- A value several times, unless it is a number. -/
def multiplyOther (v : Value) (n : Int) : Run Value := do
  match v with
  | .text s => return .text (← Run.lift (repeated s n))
  | .markup s => return .markup (← Run.lift (repeated s n))
  | .bytes b => return .bytes (List.replicate (← Run.lift (timesOf b.length n)) b).flatten
  | .list place => do newList (← Run.lift (repeatedItems (← listAt place) n))
  | v =>
    match v.tupleOf? with
    | some items => return .tuple (← Run.lift (repeatedItems items n))
    | none => Run.fail .wrongKind

/-- Whether a value is a set or shows the keys or entries of a mapping. -/
def isSetLike (v : Value) : Bool :=
  match v with
  | .set _ | .view .keys _ _ | .view .entries _ _ => true
  | _ => false

/-- Whether a value shows the keys or entries of a mapping. -/
def isSetView (v : Value) : Bool :=
  match v with
  | .view .keys _ _ | .view .entries _ _ => true
  | _ => false

/-- The members that the items of a value make, those of a mapping being its keys. -/
def viewMembers (v : Value) : Run Members :=
  match v with
  | .view .keys place _ => membersOf (.mapping place)
  | v => membersOf v

/-- The members of a value that are not among the items of another. -/
def setDifference (a b : Value) : Run Value := do
  let members ← viewMembers a
  let others ← itemsOf b
  let left ← Run.reading fun w => do
    others.forM (checkKey deepest)
    withoutMembers w others members.items
  newSet ⟨left, members.size⟩

/-- A value's complex number, if it is a number. -/
def complexOf? (v : Value) : Except Fault (Option Decimal.Complex) :=
  match v with
  | .complex x => .ok (some x)
  | v =>
    match v.quantityOf? with
    | some (.inr x) => .ok (some (.ofReal x))
    | some (.inl n) => do
      return some (.ofReal (← orFault .tooLarge (Decimal.ofInteger? n)))
    | none => .ok none

/-- The value of an operation on two complex numbers. -/
def operateComplex (op : Operator) (a b : Decimal.Complex) : Except Fault Value :=
  match op with
  | .add => .ok (.complex (a.add b))
  | .subtract => .ok (.complex (a.subtract b))
  | .multiply => .ok (.complex (a.multiply b))
  | .divide => (orFault .divisionByZero (a.divide? b)).map .complex
  | .power => do
    let z ← orFault .divisionByZero (a.power? b)
    if z.real.isInf || z.imaginary.isInf then .error .tooLarge else return .complex z
  | .quotient | .remainder => .error .wrongKind

/-- The value of an operation of which one side is complex, if both are numbers. -/
def operateMixed? (op : Operator) (a b : Value) : Except Fault (Option Value) := do
  match a, b with
  | .complex _, _ | _, .complex _ =>
    match ← complexOf? a, ← complexOf? b with
    | some x, some y => (operateComplex op x y).map some
    | _, _ => return none
  | _, _ => return none

/-- The value of an operation on values that are not both numbers. -/
def operateOthers (op : Operator) (a b : Value) : Run Value :=
  match op with
  | .add => addOthers a b
  | .multiply =>
    match a.integerOf?, b.integerOf? with
    | some n, _ => multiplyOther b n
    | _, some n => multiplyOther a n
    | _, _ => Run.fail .wrongKind
  | .subtract =>
    match a, b with
    | .set _, .set _ => setDifference a b
    | a, b => if isSetView a || isSetView b then setDifference a b else Run.fail .wrongKind
  | _ => Run.fail .wrongKind

/-- The value of an operation. -/
def operate (op : Operator) (a b : Value) : Run Value :=
  match op, a with
  | .remainder, .text s => writeMarks false s b
  | .remainder, .markup s => writeMarks true s b
  | .remainder, .bytes octets => writeOctetMarks octets b
  | op, a =>
    if a.isMissing || b.isMissing then Run.fail .missing
    else
      match a.quantityOf?, b.quantityOf? with
      | some x, some y => Run.lift (operateQuantities op x y)
      | _, _ => do
        match ← Run.lift (operateMixed? op a b) with
        | some v => return v
        | none => operateOthers op a b

/-- A number with the sign turned around, or as it is. -/
def signed (negative : Bool) (v : Value) : Except Fault Value :=
  match v with
  | .missing _ => .error .missing
  | .decimal x => .ok (.decimal (if negative then -x else x))
  | .complex x => .ok (.complex (if negative then ⟨-x.real, -x.imaginary⟩ else x))
  | v => do
    let n ← orFault .wrongKind v.integerOf?
    return .number (if negative then -n else n)

/-! ## Comparisons -/

/-- Whether octets stand one after the other within others. -/
def octetsWithin (part : List UInt8) : List UInt8 → Bool
  | [] => part.isEmpty
  | b :: rest => part.isPrefixOf (b :: rest) || octetsWithin part rest

/-- Whether a value is among the items that are still to come, which are used up to the first
one that is equal. -/
def isToCome (v : Value) : (fuel : Nat) → Items → Run Bool
  | 0, _ => Run.fail .tooDeep
  | fuel + 1, items => do
    match ← items.next with
    | (none, _) => return false
    | (some item, items) =>
      if ← Run.reading fun w => isSame w item v then return true else isToCome v fuel items

/-- Whether a whole number is in a range. -/
def isInRange (n first last step : Int) : Bool :=
  if 0 < step then first ≤ n && n < last && (n - first) % step = 0
  else last < n && n ≤ first && (first - n) % (-step) = 0

/-- Whether a value is in a range. -/
def isWithinRange (v : Value) (first last step : Int) : Run Bool :=
  match v with
  | .missing false =>
    if Value.rangeLength first last step = 0 then return false else Run.fail .missing
  | v =>
    match v.quantityOf? with
    | some (.inl n) => return isInRange n first last step
    | some (.inr x) =>
      return !x.isNaN && !x.isInf && Decimal.isWhole x &&
        isInRange (Decimal.truncated x) first last step
    | none =>
      match v with
      | .complex x =>
        return x.imaginary == 0.0 && !x.real.isNaN && !x.real.isInf && Decimal.isWhole x.real &&
          isInRange (Decimal.truncated x.real) first last step
      | _ => return false

/-- Whether a mapping shows a value among its entries. -/
def isEntry (w : World) (v : Value) (place : Nat) : Except Fault Bool :=
  match v.tupleOf? with
  | some [k, v] => do
    match ← lookUp w k (w.entriesAt place) with
    | some found => isSame w found v
    | none => return false
  | _ => .ok false

/-- Whether a value is part of another. -/
def isWithin (a b : Value) : Run Bool := do
  match b with
  | .text t | .markup t =>
    match a.textOf? with
    | some s => return Text.occursIn s.toList t.toList
    | none => Run.fail .wrongKind
  | .bytes t =>
    match a, a.integerOf? with
    | .bytes s, _ => return octetsWithin s t
    | _, some n =>
      if 0 ≤ n && n < 256 then return t.contains (UInt8.ofNat n.toNat)
      else Run.fail .wrongValue
    | _, none => Run.fail .wrongKind
  | .mapping place | .proxy place | .view .keys place _ => Run.reading fun w => do
    return (← lookUp w a (w.entriesAt place)).isSome
  | .view .entries place _ => Run.reading fun w => isEntry w a place
  | .set place => Run.reading fun w => do
    match a with
    | .set _ => pure ()
    | a => checkKey deepest a
    isAmong w a (w.setAt place).items
  | .range first last step => isWithinRange a first last step
  | .object _ => do isToCome a patience (← Items.of b)
  | b => Run.reading fun w => do isAmong w a (← lastingItems w b)

/-- The value of a comparison. -/
def compare (op : Comparison) (a b : Value) : Run Bool :=
  match op with
  | .within => isWithin a b
  | .notWithin => return !(← isWithin a b)
  | .equal => Run.reading fun w => isEqual w a b
  | .unequal => Run.reading fun w => (isEqual w a b).map (!·)
  | op => Run.reading fun w => isOrdered w op a b

end Tweaks.Banner
