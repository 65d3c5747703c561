import Tweaks.Banner.Basic

/-!
# What a banner changes

The lists, mappings, sets and other objects that a banner makes while it is filled in, and the
names that it gives values to.  Objects are known by their places; names are kept in
frames, which are known by theirs.  Some objects hold pieces of the banner: what they do is
given to a computation from outside.
-/

namespace Tweaks.Banner

/-- Values by name.  The first entry of a name counts. -/
abbrev Scope := List (String × Value)

/-- Whether values are escaped where they are said. -/
inductive Escaping where
  | off
  | on
  /-- As it stands when the value is said. -/
  | varying
deriving DecidableEq, Repr

/-- The names of a part of a banner: those with values, and those that have none until they
are given one there. -/
structure Frame where
  entries : Scope
  unset : List String

instance : Inhabited Frame := ⟨⟨[], []⟩⟩

/-- What surrounds a piece. -/
structure Env where
  /-- The frames of names from the inside out. -/
  frames : List Nat
  /-- The outermost frame, if blocks see its names. -/
  root : Option Nat
  /-- The names given to the banner. -/
  given : Scope
  /-- The names that the frames mention. -/
  known : List String
  escaping : Escaping
  /-- How deep calls lie within each other. -/
  depth : Nat
  /-- The blocks of the banner. -/
  blocks : List Block
  /-- The text that is captured around a piece. -/
  captured : Value

instance : Inhabited Env := ⟨⟨[], none, [], [], .off, 0, [], .none⟩⟩

/-- A body with parameters, and what surrounds it. -/
structure Routine where
  name : Option String
  parameters : Signature
  body : List Piece
  env : Env

instance : Inhabited Routine := ⟨⟨none, [], [], default⟩⟩

/-- The items that are still to come, one after the other. -/
inductive Items where
  | fixed (rest : List Value)
  /-- So many whole numbers in steps. -/
  | counted (first step : Int) (count : Nat)
  /-- Those of the list at a place, from one of them on. -/
  | listed (place index : Nat)
  /-- Those of the list at a place that stand before one of them, from there back. -/
  | backwards (place index : Nat)
  /-- What a mapping shows, as long as it keeps so many entries.  Some keys have been come
  to. -/
  | shown (view : View) (place count : Nat) (before : List Value)
  /-- What a mapping shows, from the end, as long as it keeps so many entries. -/
  | shownBackwards (view : View) (place count index : Nat)
  /-- Those of the set at a place, as long as it keeps so many of them. -/
  | members (place count index : Nat)
  /-- The values that the object at a place gives. -/
  | given (place : Nat)
deriving Repr, Inhabited

/-- What is made of items, one after the other. -/
inductive Making where
  /-- What a path leads to from each item. -/
  | led (path : List Value) (other : Option Value)
  /-- What a filter makes of each item. -/
  | filtered (name : Value) (arguments : List Value) (named : Scope)
  /-- The items that have a property, or of which the part that a path leads to has it. -/
  | selected (wanted : Bool) (path arguments : List Value) (named : Scope)
  /-- The items of which no earlier one goes by an equal key. -/
  | distinct (sensitive : Bool) (path seen : List Value)
  /-- The items in rows, the last of which may be filled up. -/
  | rows (count : Value) (fill : Option Value) (row : List Value)
  /-- The items that meet the condition of a loop, as its target holds them. -/
  | met (env : Env) (target : Target) (condition : Expr)

/-- A supply of values that are given once, one after the other. -/
inductive Supply where
  /-- The items of something as they are. -/
  | plain (items : Items)
  /-- What a filter makes of the items of a value; nothing has been looked at so far. -/
  | asked (filter : String) (v : Value) (places : List Value) (named : Scope)
  /-- The items of a value that meet the condition of a loop; none has been looked at so far. -/
  | awaited (v : Value) (env : Env) (target : Target) (condition : Expr)
  /-- What is made of items. -/
  | made (items : Items) (making : Making)

instance : Inhabited Supply := ⟨.plain (.fixed [])⟩

/-- A loop in one of its rounds. -/
structure Round where
  /-- What the items come from. -/
  source : Value
  items : Items
  /-- The number of items that were given. -/
  count : Nat
  /-- The number of all items, once it was asked for. -/
  length : Option Nat
  /-- The item that comes next, if it was looked at. -/
  ahead : Option Value
  current : Option Value
  before : Option Value
  /-- How many rounds of the same loop lie around this one. -/
  depth : Nat
  /-- What was last asked whether it had changed. -/
  seen : Option (List Value)
  /-- The loop, if its body may ask for the same with other items. -/
  again : Option (Piece × Env)

/-- An object other than a list, mapping or set. -/
inductive Object where
  /-- Names with values that can be changed: the entries of the mapping at a place. -/
  | record (place : Nat)
  /-- Values that are given one after the other, again and again. -/
  | cycle (items : List Value) (place : Nat)
  /-- A separator that is not given the first time. -/
  | separator (value : Value) (used : Bool)
  /-- A supply, with the name of its kind. -/
  | supply (kind : String) (supply : Supply)
  | round (round : Round)
  | routine (routine : Routine)

instance : Inhabited Object := ⟨.supply "" default⟩

/-- A set: its members in the order in which they came, and the size of its table, by which
they are arranged. -/
structure Members where
  items : List Value
  size : Nat
deriving Repr, Inhabited

/-- Everything that a banner changes. -/
structure World where
  lists : Array (List Value)
  mappings : Array (List (Value × Value))
  sets : Array Members
  objects : Array Object
  frames : Array Frame
  /-- How often values were looked at in a way that can be told apart. -/
  looks : Nat
  /-- Whether values are escaped now. -/
  escapes : Bool

instance : Inhabited World := ⟨⟨#[], #[], #[], #[], #[], 0, false⟩⟩

/-- A change of how things stand that may break off. -/
abbrev Change := StateT World (Except Fault)

/-- What objects do that hold pieces of a banner, which are read elsewhere. -/
structure Conduct where
  /-- The next value that the object at a place gives, if there is one. -/
  next : Nat → Change (Option Value)
  /-- What a value answers when it is called. -/
  call : Value → List Value → Scope → Change Value

instance : Inhabited Conduct :=
  ⟨⟨fun _ _ => .error .tooDeep, fun _ _ _ _ => .error .tooDeep⟩⟩

/-- A computation that may change what a banner changes, and may break off. -/
abbrev Run := ReaderT Conduct Change

namespace Run

/-- Breaks off. -/
def fail {α : Type} (fault : Fault) : Run α := fun _ _ => .error fault

/-- What can be said without looking at how things stand. -/
def lift {α : Type} (x : Except Fault α) : Run α := fun _ w => x.map fun a => (a, w)

/-- What can be said from how things stand. -/
def reading {α : Type} (f : World → Except Fault α) : Run α := fun _ w =>
  (f w).map fun a => (a, w)

/-- A computation, and how things stood before if it breaks off. -/
def attempt {α : Type} (x : Run α) : Run (Except Fault α) := fun conduct w =>
  match x conduct w with
  | .ok (a, w) => .ok (.ok a, w)
  | .error fault => .ok (.error fault, w)

end Run

namespace World

/-- The items of the list at a place. -/
def listAt (w : World) (place : Nat) : List Value :=
  w.lists.getD place []

/-- The entries of the mapping at a place. -/
def entriesAt (w : World) (place : Nat) : List (Value × Value) :=
  w.mappings.getD place []

/-- The set at a place. -/
def setAt (w : World) (place : Nat) : Members :=
  w.sets.getD place default

/-- The object at a place. -/
def objectAt (w : World) (place : Nat) : Object :=
  w.objects.getD place default

/-- The frame at a place. -/
def frameAt (w : World) (place : Nat) : Frame :=
  w.frames.getD place default

/-- The value of a name in the first frame that has one for it, or among the given names.
No name is looked for beyond a frame in which it has no value yet. -/
def lookup (w : World) (given : Scope) (name : String) : List Nat → Option Value
  | [] => given.lookup name
  | place :: rest =>
    let frame := w.frameAt place
    match frame.entries.lookup name with
    | some v => some v
    | none => if frame.unset.contains name then none else w.lookup given name rest

end World

/-! ## Lists, mappings and objects -/

/-- A new list. -/
def newList (items : List Value) : Run Value := fun _ w =>
  .ok (.list w.lists.size, { w with lists := w.lists.push items })

/-- A new mapping. -/
def newMapping (entries : List (Value × Value)) : Run Value := fun _ w =>
  .ok (.mapping w.mappings.size, { w with mappings := w.mappings.push entries })

/-- A new object. -/
def newObject (o : Object) : Run Value := fun _ w =>
  .ok (.object w.objects.size, { w with objects := w.objects.push o })

/-- A new supply. -/
def newSupply (kind : String) (supply : Supply) : Run Value :=
  newObject (.supply kind supply)

/-- A new look at the mapping at a place. -/
def newView (view : View) (place : Nat) : Run Value := fun _ w =>
  .ok (.view view place w.looks, { w with looks := w.looks + 1 })

/-- What a value does when it is asked by a name. -/
def newMethod (name : String) (owner : Value) : Run Value := fun _ w =>
  .ok (.method name owner w.looks, { w with looks := w.looks + 1 })

/-- The items of the list at a place. -/
def listAt (place : Nat) : Run (List Value) := fun _ w => .ok (w.listAt place, w)

/-- The entries of the mapping at a place. -/
def entriesAt (place : Nat) : Run (List (Value × Value)) := fun _ w =>
  .ok (w.entriesAt place, w)

/-- The set at a place. -/
def setAt (place : Nat) : Run Members := fun _ w => .ok (w.setAt place, w)

/-- The object at a place. -/
def objectAt (place : Nat) : Run Object := fun _ w => .ok (w.objectAt place, w)

/-- Gives a list other items. -/
def setList (place : Nat) (items : List Value) : Run Unit := fun _ w =>
  .ok ((), { w with lists := w.lists.setIfInBounds place items })

/-- Gives a mapping other entries. -/
def setEntries (place : Nat) (entries : List (Value × Value)) : Run Unit := fun _ w =>
  .ok ((), { w with mappings := w.mappings.setIfInBounds place entries })

/-- Gives a set other members. -/
def setMembers (place : Nat) (members : Members) : Run Unit := fun _ w =>
  .ok ((), { w with sets := w.sets.setIfInBounds place members })

/-- Puts another object at a place. -/
def setObject (place : Nat) (o : Object) : Run Unit := fun _ w =>
  .ok ((), { w with objects := w.objects.setIfInBounds place o })

/-- The next value that the object at a place gives, if there is one. -/
def nextGiven (place : Nat) : Run (Option Value) := fun conduct => conduct.next place

/-- What a value answers when it is called. -/
def callGiven (v : Value) (places : List Value) (named : Scope) : Run Value := fun conduct =>
  conduct.call v places named

/-! ## Names -/

/-- Entries with a value for a name, in the place of an older one if there is any. -/
def withEntry (name : String) (v : Value) : Scope → Scope
  | [] => [(name, v)]
  | (other, old) :: rest =>
    if other = name then (name, v) :: rest else (other, old) :: withEntry name v rest

/-- A new frame of names. -/
def newFrame (frame : Frame) : Run Nat := fun _ w =>
  .ok (w.frames.size, { w with frames := w.frames.push frame })

/-- Gives a name a value in a frame. -/
def setName (place : Nat) (name : String) (v : Value) : Run Unit := fun _ w =>
  .ok ((), { w with frames := w.frames.modify place fun frame =>
    { frame with entries := withEntry name v frame.entries } })

/-- Says whether values are escaped from now on, and whether they were before. -/
def setEscapes (escapes : Bool) : Run Bool := fun _ w =>
  .ok (w.escapes, { w with escapes := escapes })

/-- The value of a name, if it has one. -/
def lookup? (env : Env) (name : String) : Run (Option Value) := fun _ w =>
  .ok (w.lookup env.given name env.frames, w)

/-- The names that are seen from a piece, with their values: those of the frames from
the inside out, before the given ones. -/
def seenNames (env : Env) : Run Scope := fun _ w =>
  .ok (env.frames.flatMap (fun place => (w.frameAt place).entries) ++ env.given, w)

end Tweaks.Banner
