import Tweaks.Banner.Slot

/-!
# Values of kinds

What comes of calling a kind: the value of this kind that arguments stand for.  And what kinds
do themselves when they are asked by name.
-/

namespace Tweaks.Banner

/-! ## Numbers and texts -/

/-- The only value by its place, if there is one at all. -/
def loneArgument (places : List Value) (named : Scope) : Except Fault (Option Value) :=
  match places, named with
  | [], [] => .ok none
  | [v], [] => .ok (some v)
  | _, _ => .error .wrongKind

/-- The whole number that a value is or spells, to a base if one is given. -/
def constructNumber (places : List Value) (named : Scope) : Except Fault Value := do
  let (places, base) ← (match places, named with
    | [v, base], [] => .ok ([v], some base)
    | places, [("base", base)] => .ok (places, some base)
    | places, [] => .ok (places, none)
    | _, _ => .error .wrongKind)
  match places, base with
  | [], none => return .number 0
  | [v], none => do return .number (← toInteger (.number 10) v)
  | [v], some base => do
    let n ← baseOf base
    let s ← orFault .wrongKind (spelling? v)
    return .number (← orFault .wrongValue (Decimal.integer? n s))
  | _, _ => .error .wrongKind

/-- The complex number that values are the parts of, or that a text spells. -/
def constructComplex (places : List Value) (named : Scope) : Except Fault Value := do
  let given ← bindArguments ["real", "imag"] places named
  match given.lookup "real", given.lookup "imag" with
  | some (.text s), none | some (.markup s), none =>
    return .complex (← orFault .wrongValue (Decimal.complex? s.toList))
  | real, imaginary => do
    let x ← orFault .wrongKind (← complexOf? (real.getD (.number 0)))
    let y ← orFault .wrongKind (← complexOf? (imaginary.getD (.number 0)))
    let isComplex (v : Option Value) : Bool := match v with
      | some (.complex _) => true
      | _ => false
    return .complex ⟨if isComplex imaginary then x.real - y.imaginary else x.real,
      if isComplex real then x.imaginary + y.real else y.real⟩

/-- Whether a text says how octets are to be read. -/
def isDecoded (given : Scope) : Bool :=
  (given.lookup "encoding").isSome || (given.lookup "errors").isSome

/-- The text of a value, or the one that octets spell in an encoding. -/
def constructText (places : List Value) (named : Scope) : Run String := do
  let given ← Run.lift (bindArguments ["object", "encoding", "errors"] places named)
  match given.lookup "object" with
  | none => return ""
  | some v =>
    if isDecoded given then
      match v with
      | .bytes b => Run.lift (decodeOctets b (given.lookup "encoding") (given.lookup "errors"))
      | _ => Run.fail .wrongKind
    else say v

/-- The text of a value as marked-up text. -/
def constructMarkup (places : List Value) (named : Scope) : Run String := do
  let given ← Run.lift (bindArguments ["object", "encoding", "errors"] places named)
  match given.lookup "object", given.lookup "encoding" with
  | none, none | none, some .none => return ""
  | some v, none | some v, some .none => say v
  | some (.bytes b), some encoding => do
    Run.lift (decodeOctets b (some encoding) (given.lookup "errors"))
  | _, _ => Run.fail .wrongKind

/-- The octets that a value holds, so many zeros, or those that spell a text. -/
def constructOctets (places : List Value) (named : Scope) : Run (List UInt8) := do
  let given ← Run.lift (bindArguments ["source", "encoding", "errors"] places named)
  match given.lookup "source" with
  | none => if isDecoded given then Run.fail .wrongKind else return []
  | some v =>
    match v.textOf?, given.lookup "encoding" with
    | some s, some encoding =>
      Run.lift (encodeText s.toList (some encoding) (given.lookup "errors"))
    | some _, none => Run.fail .wrongKind
    | none, _ =>
      if isDecoded given then Run.fail .wrongKind
      else
        match v.integerOf? with
        | some _ => do
          let n ← Run.lift (sizeArgument v)
          if n < 0 then Run.fail .wrongValue
          else return List.replicate (← Run.lift (widthArgument v)) 0
        | none => octetsOfValue v

/-! ## Other values -/

/-- The range between bounds. -/
def constructRange (places : List Value) (named : Scope) : Except Fault Value := do
  if !named.isEmpty then .error .wrongKind
  else
    match ← mapOk integerArgument places with
    | [last] => return .range 0 last 1
    | [first, last] => return .range first last 1
    | [first, last, step] =>
      if step = 0 then .error .wrongValue else return .range first last step
    | _ => .error .wrongKind

/-- The value of a kind that arguments stand for. -/
def construct (k : Kind) (places : List Value) (named : Scope) : Run Value := do
  let lone : Run (Option Value) := Run.lift (loneArgument places named)
  match k with
  | .none => if places.isEmpty && named.isEmpty then return .none else Run.fail .wrongKind
  | .truth => do
    match ← lone with
    | some v => return .truth (← isTrue v)
    | none => return .truth false
  | .number => Run.lift (constructNumber places named)
  | .decimal => do
    match ← lone with
    | some v => return .decimal (← Run.lift (toDecimal v))
    | none => return .decimal 0.0
  | .complex => Run.lift (constructComplex places named)
  | .text => return .text (← constructText places named)
  | .markup => return .markup (← constructMarkup places named)
  | .bytes => return .bytes (← constructOctets places named)
  | .tuple => do
    match ← lone with
    | some v => return .tuple (← itemsOf v)
    | none => return .tuple []
  | .group => do
    let given ← Run.lift (bindArguments ["grouper", "list"] places named)
    match given.lookup "grouper", given.lookup "list" with
    | some key, some items => return .group key items
    | _, _ => Run.fail .wrongKind
  | .range => Run.lift (constructRange places named)
  | .list => do
    match ← lone with
    | some v => newList (← itemsOf v)
    | none => newList []
  | .mapping => do newMapping (← givenEntries [] places named)
  | .set => do
    match ← lone with
    | some v => newSet (← membersOf v)
    | none => newSet ⟨[], 8⟩
  | .proxy => do
    match ← lone with
    | some (.mapping place) | some (.proxy place) => return .proxy place
    | _ => Run.fail .wrongKind
  | .kind => do
    match ← lone with
    | some v => Run.reading fun w => .ok (.kind (kindOf w v))
    | none => Run.fail .wrongKind
  | .cycle =>
    if !named.isEmpty then Run.fail .wrongKind
    else if places.isEmpty then Run.fail .noChoice
    else newObject (.cycle places 0)
  | .separator => do
    let given ← Run.lift (bindArguments ["sep"] places named)
    newObject (.separator ((given.lookup "sep").getD (.text ", ")) false)
  | .record => do
    match ← newMapping (← givenEntries [] places named) with
    | .mapping place => newObject (.record place)
    | _ => Run.fail .wrongKind
  | .missing lenient => return .missing lenient
  | _ => Run.fail .wrongKind

/-! ## What kinds do -/

/-- The kind that a value is. -/
def kindArgument (v : Value) : Except Fault Kind :=
  match v with
  | .kind k => .ok k
  | _ => .error .wrongKind

/-- A new value of a kind that is still to become what arguments say, if it can be changed. -/
def blankOf (k : Kind) (places : List Value) (named : Scope) : Run Value := do
  match k with
  | .list => newList []
  | .mapping => newMapping []
  | .set => newSet ⟨[], 8⟩
  | k => construct k places named

/-- A value of a kind that a number stands for. -/
def numberOfKind (k : Kind) (n : Int) : Value :=
  if k = .truth then .truth (n ≠ 0) else .number n

/-- A mapping with a value under each key. -/
def constructFromKeys (places : List Value) : Run Value := do
  let fill (keys v : Value) : Run Value := do
    let entries ← foldItems (fun entries k => Run.reading fun w =>
      withKeys w entries [(k, v)]) [] keys
    newMapping entries
  match places with
  | [keys] => fill keys .none
  | [keys, v] => fill keys v
  | _ => Run.fail .wrongKind

/-- What a kind does for all its values when it is asked by a name, which belongs to one of its
wider kinds. -/
def answerShared (k home : Kind) (name : String) (places : List Value) (named : Scope) :
    Run Value := do
  match name, places, named with
  | "__new__", self :: rest, named => do
    let k' ← Run.lift (kindArgument self)
    if k'.line.contains home then blankOf k' rest named else Run.fail .wrongKind
  | "from_bytes", places, named => do
    return numberOfKind k (← numberFromOctets places named)
  | "fromkeys", places, [] => constructFromKeys places
  | "fromhex", [v], [] => do
    let s := (← Run.lift (textArgument v)).toList
    if home = .bytes then return .bytes (← Run.lift (orFault .wrongValue (octetsOfHex? s)))
    else
      let x ← Run.lift (orFault .wrongValue (Decimal.hexDouble? s))
      return .decimal (← Run.lift (orFault .tooLarge x))
  | "maketrans", places, [] =>
    if home = .bytes then
      match places with
      | [.bytes old, .bytes new] => return .bytes (← Run.lift (octetTable old new))
      | _ => Run.fail .wrongKind
    else textMethodPlaced false "maketrans" [] places
  | "escape", [v], [] => return .markup (← escape v)
  | "_make", [v], [] => do
    match ← itemsOf v with
    | [key, items] => return .group key items
    | _ => Run.fail .wrongKind
  | "__class_getitem__", [key], [] => return .alias k (key.tupleOf?.getD [key])
  | "__getformat__", [v], [] => do
    let s ← Run.lift (textArgument v)
    if s = "double" || s = "float" then return .text "IEEE, little-endian"
    else Run.fail .wrongValue
  | "__init_subclass__", [], [] => return .none
  | "__subclasshook__", _, _ => return .unsupported
  | "__prepare__", _, _ => newMapping []
  | _, _, _ => Run.fail .wrongKind

/-- What a kind answers as a value. -/
def answerKind (k : Kind) (name : String) (places : List Value) (named : Scope) : Run Value := do
  match name, places, named with
  | "__call__", places, named => construct k places named
  | "mro", [], [] => newList (k.line.map .kind)
  | "__subclasses__", [], [] => newList []
  | "__instancecheck__", [v], [] => do
    return .truth ((← Run.reading fun w => .ok (kindOf w v)).line.contains k)
  | "__subclasscheck__", [v], [] => do
    return .truth ((← Run.lift (kindArgument v)).line.contains k)
  | name, places, named => answerSlot .kind name (.kind k) places named

end Tweaks.Banner
