import Tweaks.Banner.Mention
import Tweaks.Banner.Relation

/-!
# Parts of values

What a value is asked for by a name, by a key or place, or from one place to another.  This
needs what is found under the keys of mappings and among the members of sets, and how these get
more of them.  Values that can be changed are no keys.
-/

namespace Tweaks.Banner

/-! ## Keys -/

/-- Whether a value can be a key. -/
def checkKey : (fuel : Nat) → Value → Except Fault Unit
  | 0, _ => .error .tooDeep
  | fuel + 1, v =>
    match v with
    | .list _ | .mapping _ | .proxy _ | .set _ | .group _ _ => .error .wrongKind
    | .view .keys _ _ | .view .entries _ _ => .error .wrongKind
    | .missing false => .error .missing
    | .tuple items => items.forM (checkKey fuel)
    | .alias _ parts => parts.forM (checkKey fuel)
    | _ => .ok ()

/-- The value under a key. -/
def entryOf (w : World) (k : Value) : List (Value × Value) → Except Fault (Option Value)
  | [] => .ok none
  | (k', v) :: rest => do
    if ← isSame w k k' then return some v else entryOf w k rest

/-- The value under a key that can be one. -/
def lookUp (w : World) (k : Value) (entries : List (Value × Value)) :
    Except Fault (Option Value) := do
  checkKey deepest k
  entryOf w k entries

/-- Entries with a value under a key, in the place of an older one if there is any. -/
def withKey (w : World) (k v : Value) : List (Value × Value) →
    Except Fault (List (Value × Value))
  | [] => .ok [(k, v)]
  | (k', old) :: rest => do
    if ← isSame w k k' then return (k', v) :: rest
    else return (k', old) :: (← withKey w k v rest)

/-- Entries with others set after them, one by one. -/
def withKeys (w : World) (entries : List (Value × Value)) :
    List (Value × Value) → Except Fault (List (Value × Value))
  | [] => .ok entries
  | (k, v) :: rest => do
    checkKey deepest k
    withKeys w (← withKey w k v entries) rest

/-! ## Membership -/

/-- Whether a value is among others. -/
def isAmong (w : World) (v : Value) : List Value → Except Fault Bool
  | [] => .ok false
  | item :: rest => do
    if ← isSame w item v then return true else isAmong w v rest

/-- The items behind the first one that a value equals, if there is one. -/
def behindSame (w : World) (v : Value) : List Value → Except Fault (Option (List Value))
  | [] => .ok none
  | item :: rest => do
    if ← isSame w item v then return some rest else behindSame w v rest

/-! ## Sets -/

/-- Members with another one, unless it is among them. -/
def withMember (w : World) (items : List Value) (v : Value) : Except Fault (List Value) := do
  checkKey deepest v
  return if ← isAmong w v items then items else items ++ [v]

/-- Members with others, one by one. -/
def withMembers (w : World) (items : List Value) : List Value → Except Fault (List Value)
  | [] => .ok items
  | v :: rest => do withMembers w (← withMember w items v) rest

/-- Members without those that are among others. -/
def withoutMembers (w : World) (others : List Value) : List Value → Except Fault (List Value)
  | [] => .ok []
  | v :: rest => do
    let kept ← withoutMembers w others rest
    return if ← isAmong w v others then kept else v :: kept

/-- Members that are among others. -/
def commonMembers (w : World) (others : List Value) : List Value → Except Fault (List Value)
  | [] => .ok []
  | v :: rest => do
    let kept ← commonMembers w others rest
    return if ← isAmong w v others then v :: kept else kept

/-- The size of the table for so many members that are known beforehand. -/
def roomFor (count : Nat) : Nat :=
  if 21 ≤ count * 5 then tableSize (count * 2) else 8

/-- A new set. -/
def newSet (members : Members) : Run Value := fun _ w =>
  .ok (.set w.sets.size, { w with sets := w.sets.push members })

/-- The members that the items of a value make. -/
def membersOf (v : Value) : Run Members := do
  match v with
  | .set place => do
    let items ← Run.reading fun w => .ok (w.membersAt place)
    return ⟨items, roomFor items.length⟩
  | .mapping place => do
    let keys := viewItems .keys (← entriesAt place)
    return ⟨keys, roomFor keys.length⟩
  | v => do
    let items ← foldItems (fun items v => Run.reading fun w => withMember w items v) [] v
    return ⟨items, 8⟩

/-! ## What objects have -/

/-- Whether a routine's body asks for what is given to it besides its parameters. -/
def Routine.asksFor (r : Routine) (name : String) : Bool :=
  readsName name r.body && !(r.parameters.any fun (other, _) => other = name)

/-- What a routine is asked for by name. -/
def routinePart (r : Routine) (name : String) : Option Value :=
  match name with
  | "name" => some (r.name.elim .none .text)
  | "arguments" => some (.tuple (r.parameters.map fun (name, _) => .text name))
  | "catch_kwargs" => some (.truth (r.asksFor "kwargs"))
  | "catch_varargs" => some (.truth (r.asksFor "varargs"))
  | "caller" => some (.truth (readsName "caller" r.body))
  | "explicit_caller" => some (.truth (r.parameters.any fun (name, _) => name = "caller"))
  | "_argument_count" => some (.number r.parameters.length)
  | _ => none

/-- What a supply is asked for by name: those made by filters have the names of these. -/
def supplyPart (kind name : String) (s : Supply) : Option Value :=
  let makerName : String := match s with
    | .asked "map" _ _ _ | .made _ (.led _ _) | .made _ (.filtered _ _ _) => "sync_do_map"
    | .asked "unique" _ _ _ | .made _ (.distinct _ _ _) => "do_unique"
    | .asked "batch" _ _ _ | .made _ (.rows _ _ _) => "do_batch"
    | .asked "slice" _ _ _ => "sync_do_slice"
    | .asked "items" _ _ _ => "do_items"
    | _ => "select_or_reject"
  if kind ≠ "generator" then none
  else
    match name with
    | "__name__" | "__qualname__" => some (.text makerName)
    | "gi_running" => some (.truth false)
    | "gi_yieldfrom" => some .none
    | _ => none

/-- What the object at a place is made of. -/
def objectPart (place : Nat) (o : Object) (name : String) : Run (Option Value) := do
  match o with
  | .record _ => return none
  | .round r => r.part? place name
  | .routine r => return routinePart r name
  | .supply kind s => return supplyPart kind name s
  | .cycle items place =>
    match name with
    | "current" => return some (items.getD place .none)
    | "items" => return some (.tuple items)
    | "pos" => return some (.number place)
    | "__dict__" => do
      return some (← newMapping [(.text "items", .tuple items), (.text "pos", .number place)])
    | _ => return none
  | .separator v used =>
    match name with
    | "sep" => return some v
    | "used" => return some (.truth used)
    | "__dict__" => do
      return some (← newMapping [(.text "sep", v), (.text "used", .truth used)])
    | _ => return none

/-- What a number has besides its worth. -/
def numberPart (v : Value) (name : String) : Option Value :=
  match v with
  | .decimal x =>
    match name with
    | "real" => some (.decimal x)
    | "imag" => some (.decimal 0.0)
    | _ => none
  | .complex x =>
    match name with
    | "real" => some (.decimal x.real)
    | "imag" => some (.decimal x.imaginary)
    | _ => none
  | v =>
    match v.integerOf?, name with
    | some n, "real" => some (.number n)
    | some n, "numerator" => some (.number n)
    | some _, "imag" => some (.number 0)
    | some _, "denominator" => some (.number 1)
    | _, _ => none

/-- The name of what a value does, with that of the kind to which it belongs. -/
def traitName (owner : Kind) (name : String) : Value :=
  .text (owner.name ++ "." ++ name)

/-- What the functions of values are asked for by name. -/
def functionPart (w : World) (v : Value) (name : String) : Option Value :=
  match v with
  | .method word owner _ =>
    let self := match owner with
      | .kind k => k
      | owner => kindOf w owner
    let home := ((self.trait? word).map Prod.fst).getD self
    match name with
    | "__name__" => some (.text word)
    | "__qualname__" => some (traitName home word)
    | "__self__" => some owner
    | "__module__" => if home.isWoven then some (.text home.home) else some .none
    | "__func__" => if home.isWoven then some (.unbound home word) else none
    | _ => none
  | .unbound owner word | .field owner word =>
    match name with
    | "__name__" => some (.text word)
    | "__qualname__" => some (traitName owner word)
    | "__objclass__" => if owner.isWoven then none else some (.kind owner)
    | "__module__" => if owner.isWoven then some (.text owner.home) else none
    | _ => none
  | .function _ =>
    match name with
    | "__name__" | "__qualname__" => some (.text "generate_lorem_ipsum")
    | "__module__" => some (.text "jinja2.utils")
    | "__doc__" => some (.text "Generate some lorem ipsum for the template.")
    | "__defaults__" => some (.tuple [.number 5, .truth true, .number 20, .number 100])
    | "__kwdefaults__" => some .none
    | _ => none
  | .alias owner parts =>
    match name with
    | "__origin__" => some (.kind owner)
    | "__args__" => some (.tuple parts)
    | "__parameters__" => some (.tuple [])
    | "__unpacked__" => some (.truth false)
    | _ => none
  | _ => none

/-- What a value is made of. -/
def fieldOf? (v : Value) (name : String) : Run (Option Value) := do
  match v with
  | .object place => do objectPart place (← objectAt place) name
  | .group key items =>
    match name with
    | "grouper" => return some key
    | "list" => return some items
    | "_fields" => return some (.tuple [.text "grouper", .text "list"])
    | _ => return none
  | .range first last step =>
    match name with
    | "start" => return some (.number first)
    | "stop" => return some (.number last)
    | "step" => return some (.number step)
    | _ => return none
  | .view _ place _ => return if name = "mapping" then some (.proxy place) else none
  | .block word =>
    match name with
    | "name" => return some (.text word)
    | "super" => return some (.missing false)
    | "_depth" => return some (.number 0)
    | _ => return none
  | .method _ _ _ | .unbound _ _ | .field _ _ | .function _ | .alias _ _ =>
    Run.reading fun w => .ok (functionPart w v name)
  | v => return numberPart v name

/-! ## By name -/

/-- Whether the values of a kind have no number, so that they are no keys. -/
def Kind.isUnhashable : Kind → Bool
  | .list | .mapping | .proxy | .set | .view .keys | .view .entries => true
  | _ => false

/-- What a kind has under a name. -/
def kindPart (k : Kind) (name : String) : Run (Option Value) := do
  match name with
  | "__name__" | "__qualname__" => return some (.text k.name)
  | "__module__" => return some (.text k.home)
  | "__mro__" => return some (.tuple (k.line.map .kind))
  | "__bases__" => return some (.tuple ((k.line.drop 1).take 1 |>.map .kind))
  | "__base__" => return some (((k.line[1]?).map Value.kind).getD .none)
  | "__class__" => return some (.kind .kind)
  | "__hash__" =>
    return some (if k.isUnhashable then .none
      else .unbound (((k.trait? name).map Prod.fst).getD .anything) name)
  | "_fields" =>
    return if k = .group then some (.tuple [.text "grouper", .text "list"]) else none
  | name =>
    match k.trait? name with
    | some (owner, .method) | some (owner, .slot) => return some (.unbound owner name)
    | some (_, .shared) => return some (← newMethod name (.kind k))
    | some (owner, _) => return some (.field owner name)
    | none =>
      match Kind.kind.trait? name with
      | some (_, .method) | some (_, .slot) => return some (← newMethod name (.kind k))
      | _ => return none

/-- What a value has under a name. -/
def attribute? (v : Value) (name : String) : Run (Option Value) := do
  let k ← Run.reading fun w => .ok (kindOf w v)
  match v, k with
  | .kind self, _ => kindPart self name
  | .object place, .record =>
    match ← objectAt place with
    | .record entries =>
      match name with
      | "__class__" => return some (.kind .record)
      | "_Namespace__attrs" => return some (.mapping entries)
      | name => Run.reading fun w => entryOf w (.text name) (w.entriesAt entries)
    | _ => return none
  | v, k =>
    match ← fieldOf? v name with
    | some found => return some found
    | none =>
      if name = "__class__" then return some (.kind k)
      else if name = "__hash__" && k.isUnhashable then return some .none
      else
        match k.trait? name, v with
        | some (_, .method), v | some (_, .slot), v => return some (← newMethod name v)
        | some (_, .shared), _ => return some (← newMethod name (.kind k))
        | _, .alias owner _ => kindPart owner name
        | _, _ => return none

/-! ## By key or place -/

/-- Whether a kind can be told what is in its values. -/
def Kind.isGeneric : Kind → Bool
  | .tuple | .list | .mapping | .set | .kind | .group => true
  | _ => false

/-- What a value has at a place. -/
def placedItem (w : World) (v : Value) (n : Int) : Option Value :=
  match v with
  | .list place => (Value.placeOf? (w.listAt place).length n).bind fun i => (w.listAt place)[i]?
  | .text s => (Value.placeOf? s.length n).bind fun i =>
      s.toList[i]?.map fun c => .text (String.ofList [c])
  | .markup s => (Value.placeOf? s.length n).bind fun i =>
      s.toList[i]?.map fun c => .markup (String.ofList [c])
  | .bytes b => (Value.placeOf? b.length n).bind fun i => b[i]?.map fun b => .number b.toNat
  | .range first last step =>
    (Value.placeOf? (Value.rangeLength first last step) n).map fun (i : Nat) =>
      .number (first + i * step)
  | v => v.tupleOf?.bind fun items =>
      (Value.placeOf? items.length n).bind fun i => items[i]?

/-- What a value has under a key or at a place. -/
def elementOf (w : World) (v key : Value) : Except Fault (Option Value) :=
  match v with
  | .missing _ => .error .missing
  | .mapping place | .proxy place =>
    match lookUp w key (w.entriesAt place) with
    | .error .wrongKind => .ok none
    | other => other
  | .kind k =>
    if k.isGeneric then .ok (some (.alias k (key.tupleOf?.getD [key]))) else .ok none
  | v => .ok (key.integerOf?.bind (placedItem w v))

/-- Whether a value has items at places. -/
def Value.hasPlaces : Value → Bool
  | .text _ | .markup _ | .bytes _ | .tuple _ | .group _ _ | .range _ _ _ | .list _ => true
  | _ => false

/-- What a value has under a key or at a place, where there has to be something. -/
def subscript (w : World) (v key : Value) : Except Fault Value :=
  match v with
  | .missing _ => .error .missing
  | .mapping place | .proxy place => do orFault .noKey (← lookUp w key (w.entriesAt place))
  | .kind k =>
    if k.isGeneric then .ok (.alias k (key.tupleOf?.getD [key])) else .error .wrongKind
  | v =>
    if v.hasPlaces then do
      orFault .noPlace (placedItem w v (← orFault .wrongKind key.integerOf?))
    else .error .wrongKind

/-- What a value has under a name, be it as one of its keys. -/
def partOf (v : Value) (name : String) : Run Value := do
  if v.isMissing && !("__".toList.isPrefixOf name.toList) then Run.fail .missing
  else
    match ← attribute? v name with
    | some found => return found
    | none => do
      return (← Run.reading fun w => elementOf w v (.text name)).getD (.missing false)

/-- What a value has under a key, be it the name of one of its parts. -/
def itemOf (v key : Value) : Run Value := do
  match ← Run.reading fun w => elementOf w v key with
  | some found => return found
  | none =>
    match key.textOf? with
    | some name => return (← attribute? v name).getD (.missing false)
    | none => return .missing false

/-! ## From one place to another -/

/-- A bound of a slice, if one is given. -/
def boundOf (v : Value) : Except Fault (Option Int) :=
  match v with
  | .none => .ok none
  | v => (orFault .wrongKind v.integerOf?).map some

/-- The part of a value between two places. -/
def sliceOf (v start stop step : Value) : Run Value := do
  if v.isMissing then Run.fail .missing
  else
    match v with
    | .list _ | .text _ | .markup _ | .tuple _ | .group _ _ | .range _ _ _ | .bytes _ =>
      let step ← Run.lift (boundOf step)
      let start ← Run.lift (boundOf start)
      let stop ← Run.lift (boundOf stop)
      let step := step.getD 1
      if step = 0 then Run.fail .wrongValue
      else
        let pick {α : Type} (items : List α) : List α :=
          (Value.slicePlaces items.length start stop step).filterMap fun i => items[i]?
        match v with
        | .list place => do newList (pick (← listAt place))
        | .text s => return .text (String.ofList (pick s.toList))
        | .markup s => return .markup (String.ofList (pick s.toList))
        | .bytes b => return .bytes (pick b)
        | .range first last each =>
          let (low, high) := Value.sliceBounds (Value.rangeLength first last each) start stop step
          return .range (first + low * each) (first + high * each) (each * step)
        | v => return .tuple (pick (v.tupleOf?.getD []))
    | _ => Run.fail .wrongKind

end Tweaks.Banner
