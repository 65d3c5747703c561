import Tweaks.Banner.Members

/-!
# Items

The items of a value one by one: a list may change while it is gone through, a mapping or set
must keep its size, and supplies give their values only once.

Some items are one and the same.  Values that can be changed are known by their places; those
that cannot are the same if they are told apart by nothing.
-/

namespace Tweaks.Banner

/-! ## Values that are one -/

mutual

/-- Whether two values are the same object. -/
def sameObject (a b : Value) : Bool :=
  match a, b with
  | .none, .none => true
  | .truth a, .truth b => a = b
  | .number a, .number b => a = b
  | .decimal a, .decimal b => a.toBits = b.toBits
  | .complex a, .complex b =>
    a.real.toBits = b.real.toBits && a.imaginary.toBits = b.imaginary.toBits
  | .text a, .text b => a = b
  | .markup a, .markup b => a = b
  | .bytes a, .bytes b => a = b
  | .range f l s, .range f' l' s' => f = f' && l = l' && s = s'
  | .list a, .list b => a = b
  | .mapping a, .mapping b => a = b
  | .set a, .set b => a = b
  | .view _ _ a, .view _ _ b => a = b
  | .object a, .object b => a = b
  | .kind a, .kind b => a = b
  | .alias k as, .alias l bs => k = l && sameObjects as bs
  | .function a, .function b => a = b
  | .method _ _ a, .method _ _ b => a = b
  | .unbound k a, .unbound l b => k = l && a = b
  | .field k a, .field l b => k = l && a = b
  | .tuple as, .tuple bs => sameObjects as bs
  | .group k as, .group l bs => sameObject k l && sameObject as bs
  | .banner, .banner => true
  | .unsupported, .unsupported => true
  | _, _ => false

/-- Whether two lists hold the same objects. -/
def sameObjects (as bs : List Value) : Bool :=
  match as, bs with
  | [], [] => true
  | a :: as, b :: bs => sameObject a b && sameObjects as bs
  | _, _ => false

end

-- Powers of whole numbers are those of the core library.
attribute [local instance (5000)] instPowNat

/-- How much work the filling in of a banner may take. -/
def patience : Nat := 10 ^ (9 : Nat)

/-! ## All at once -/

/-- The characters of a text as texts. -/
def characters (s : String) : List Value :=
  s.toList.map fun c => .text (String.ofList [c])

/-- What a mapping shows in one of its views. -/
def viewItems (view : View) (entries : List (Value × Value)) : List Value :=
  match view with
  | .keys => entries.map Prod.fst
  | .values => entries.map Prod.snd
  | .entries => entries.map fun (k, v) => .tuple [k, v]

/-- The items of a value that is not used up by giving them. -/
def lastingItems (w : World) (v : Value) : Except Fault (List Value) :=
  match v with
  | .text s => .ok (characters s)
  | .markup s => .ok (characters s)
  | .bytes b => .ok (b.map fun b => .number b.toNat)
  | .tuple items => .ok items
  | .group key items => .ok [key, items]
  | .range first last step => .ok (Value.rangeItems first last step)
  | .list place => .ok (w.listAt place)
  | .mapping place => .ok (viewItems .keys (w.entriesAt place))
  | .proxy place => .ok (viewItems .keys (w.entriesAt place))
  | .set place => .ok (w.membersAt place)
  | .view view place _ => .ok (viewItems view (w.entriesAt place))
  | .missing true => .ok []
  | .missing false => .error .missing
  | .banner => .error .noKey
  | _ => .error .wrongKind

/-! ## One by one -/

namespace Items

/-- The items of a value. -/
def of (v : Value) : Run Items := fun _ w =>
  match v with
  | .list place => .ok (listed place 0, w)
  | .mapping place => .ok (shown .keys place (w.entriesAt place).length [], w)
  | .proxy place => .ok (shown .keys place (w.entriesAt place).length [], w)
  | .view view place _ => .ok (shown view place (w.entriesAt place).length [], w)
  | .set place => .ok (members place (w.setAt place).items.length 0, w)
  | .range first last step => .ok (counted first step (Value.rangeLength first last step), w)
  | .object place =>
    match w.objectAt place with
    | .supply _ _ => .ok (given place, w)
    | .round _ => .ok (given place, w)
    | _ => .error .wrongKind
  | v => (lastingItems w v).map fun items => (fixed items, w)

/-- The items of a value from the end, if they can be gone through in this way. -/
def ofEnd? (v : Value) : Run (Option Items) := fun _ w =>
  let backwards (view : View) (place : Nat) : Items :=
    let count := (w.entriesAt place).length
    shownBackwards view place count count
  match v with
  | .list place => .ok (some (.backwards place (w.listAt place).length), w)
  | .mapping place => .ok (some (backwards .keys place), w)
  | .proxy place => .ok (some (backwards .keys place), w)
  | .view view place _ => .ok (some (backwards view place), w)
  | .range first last step =>
    let count := Value.rangeLength first last step
    .ok (some (counted (first + (count - 1) * step) (-step) count), w)
  | .text _ | .markup _ | .bytes _ | .tuple _ | .group _ _ =>
    (lastingItems w v).map fun items => (some (fixed items.reverse), w)
  | .missing true => .ok (some (fixed []), w)
  | .missing false => .error .missing
  | _ => .ok (none, w)

/-- The entries behind those at the start that have been come to. -/
def behindKeys (before : List Value) (entries : List (Value × Value)) : List (Value × Value) :=
  match before, entries.drop (before.length - 1) with
  | [], _ => entries
  | last :: _, (k, _) :: rest =>
    if sameObject k last then rest else entries.dropWhile fun (k, _) => before.any (sameObject k)
  | _, [] => entries.dropWhile fun (k, _) => before.any (sameObject k)

/-- The next item, if there is one, and those behind it.  Once there is none, there will be
none. -/
def next (items : Items) : Run (Option Value × Items) := do
  match items with
  | fixed [] => return (none, fixed [])
  | fixed (v :: rest) => return (some v, fixed rest)
  | counted _ _ 0 => return (none, fixed [])
  | counted first step (count + 1) =>
    return (some (.number first), counted (first + step) step count)
  | listed place index => do
    match (← Banner.listAt place)[index]? with
    | some v => return (some v, listed place (index + 1))
    | none => return (none, fixed [])
  | backwards _ 0 => return (none, fixed [])
  | backwards place (index + 1) => do
    match (← Banner.listAt place)[index]? with
    | some v => return (some v, backwards place index)
    | none => return (none, fixed [])
  | shown view place count before => do
    let entries ← entriesAt place
    if entries.length ≠ count then Run.fail .unsettled
    else
      match behindKeys before entries with
      | [] => return (none, fixed [])
      | (k, v) :: _ =>
        if count ≤ before.length then Run.fail .unsettled
        else
          return ((viewItems view [(k, v)]).head?, shown view place count (k :: before))
  | shownBackwards view place count index => do
    let entries ← entriesAt place
    if entries.length ≠ count then Run.fail .unsettled
    else
      match index with
      | 0 => return (none, fixed [])
      | index + 1 =>
        return ((viewItems view entries)[index]?, shownBackwards view place count index)
  | members place count index => fun _ w =>
    if (w.setAt place).items.length ≠ count then .error .unsettled
    else
      match (w.membersAt place)[index]? with
      | some v => .ok ((some v, members place count (index + 1)), w)
      | none => .ok ((none, fixed []), w)
  | given place => do
    match ← nextGiven place with
    | some v => return (some v, given place)
    | none => return (none, fixed [])

/-- All items that are still to come, behind those that were taken already. -/
def drain : (fuel : Nat) → (taken : List Value) → Items → Run (List Value)
  | 0, _, _ => Run.fail .tooDeep
  | fuel + 1, taken, items => do
    match ← items.next with
    | (some v, items) => drain fuel (v :: taken) items
    | (none, _) => return taken.reverse

/-- What comes of going through the items that are still to come. -/
def fold {β : Type} (f : β → Value → Run β) : (fuel : Nat) → β → Items → Run β
  | 0, _, _ => Run.fail .tooDeep
  | fuel + 1, b, items => do
    match ← items.next with
    | (some v, items) => fold f fuel (← f b v) items
    | (none, _) => return b

end Items

/-! ## All that there are -/

/-- The items of a value. -/
def itemsOf (v : Value) : Run (List Value) := do
  match v with
  | .object _ => (← Items.of v).drain patience []
  | v => Run.reading fun w => lastingItems w v

/-- What comes of going through the items of a value. -/
def foldItems {β : Type} (f : β → Value → Run β) (b : β) (v : Value) : Run β := do
  (← Items.of v).fold f patience b

/-- What is made of each item of a value. -/
def mapItems {β : Type} (f : Value → Run β) (v : Value) : Run (List β) := do
  return (← foldItems (fun made v => return (← f v) :: made) [] v).reverse

end Tweaks.Banner
