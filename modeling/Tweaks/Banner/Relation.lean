import Tweaks.Banner.Show
import Tweaks.Decimal.Exact

/-!
# How values compare

Equality and order of values, and what counts as true.  Numbers compare by what they are
worth, exactly, whether they are whole or decimal; sets by what they hold.
-/

namespace Tweaks.Banner

/-! ## Numbers -/

/-- A number, whole or decimal. -/
abbrev Quantity := Int ⊕ Float

/-- A value's number, if it is one. -/
def Value.quantityOf? (v : Value) : Option Quantity :=
  match v with
  | .decimal x => some (.inr x)
  | v => v.integerOf?.map .inl

/-- How two numbers compare, unless one is no number at all. -/
def compareNumbers (a b : Quantity) : Option Ordering :=
  match a, b with
  | .inl m, .inl n => some (compare m n)
  | .inl m, .inr y => if y.isNaN then none else some (Decimal.compareInteger y m).swap
  | .inr x, .inl n => if x.isNaN then none else some (Decimal.compareInteger x n)
  | .inr x, .inr y =>
    if x.isNaN || y.isNaN then none
    else if x < y then some .lt else if x == y then some .eq else some .gt

/-- Whether a complex number equals a value, which has no imaginary part. -/
def equalsReal (x : Decimal.Complex) (v : Value) : Bool :=
  x.imaginary == 0.0 &&
    match v.quantityOf? with
    | some y => compareNumbers (.inr x.real) y = some .eq
    | none => false

/-! ## Equality -/

/-- The members of a value that is a set or like one. -/
def setItems? (w : World) (v : Value) : Option (List Value) :=
  match v with
  | .set place => some (w.setAt place).items
  | .view .keys place _ => some (viewItems .keys (w.entriesAt place))
  | .view .entries place _ => some (viewItems .entries (w.entriesAt place))
  | _ => none

/-- The place of the mapping that a value is or shows. -/
def mappingPlace? (v : Value) : Option Nat :=
  match v with
  | .mapping place => some place
  | .proxy place => some place
  | _ => none

mutual

/-- Whether two values are equal. -/
def equal (w : World) : (fuel : Nat) → Value → Value → Except Fault Bool
  | 0, _, _ => .error .tooDeep
  | fuel + 1, a, b =>
    match a, b with
    | .missing false, _ => .error .missing
    | _, .missing false => .error .missing
    | .missing true, .missing true => .ok true
    | .list a, .list b => equalLists w fuel (w.listAt a) (w.listAt b)
    | .range f l s, .range f' l' s' =>
      let n := Value.rangeLength f l s
      .ok (n = Value.rangeLength f' l' s' && (n = 0 || (f = f' && (n = 1 || s = s'))))
    | .bytes a, .bytes b => .ok (a == b)
    | .method name a _, .method name' b _ => .ok (name = name' && sameObject a b)
    | .alias k as, .alias l bs => if k = l then equalLists w fuel as bs else .ok false
    | .complex x, .complex y => .ok (x.equals y)
    | .complex x, b => .ok (equalsReal x b)
    | a, .complex y => .ok (equalsReal y a)
    | a, b =>
      match a.quantityOf?, b.quantityOf? with
      | some x, some y => .ok (compareNumbers x y = some .eq)
      | _, _ =>
        match a.textOf?, b.textOf? with
        | some s, some t => .ok (s = t)
        | _, _ =>
          match a.tupleOf?, b.tupleOf? with
          | some s, some t => equalLists w fuel s t
          | _, _ =>
            match mappingPlace? a, mappingPlace? b with
            | some a, some b =>
              let as := w.entriesAt a
              let bs := w.entriesAt b
              if as.length = bs.length then equalEntries w fuel bs as else .ok false
            | _, _ =>
              match setItems? w a, setItems? w b with
              | some as, some bs =>
                if as.length = bs.length then equalMembers w fuel bs as else .ok false
              | _, _ => .ok (sameObject a b)

/-- Whether two lists hold equal values. -/
def equalLists (w : World) : (fuel : Nat) → List Value → List Value → Except Fault Bool
  | 0, _, _ => .error .tooDeep
  | fuel + 1, as, bs =>
    if as.length ≠ bs.length then .ok false
    else (as.zip bs).foldlM (fun held (a, b) =>
      if held then (if sameObject a b then .ok true else equal w fuel a b) else .ok false) true

/-- Whether entries have equal ones among others. -/
def equalEntries (w : World) : (fuel : Nat) → (others entries : List (Value × Value)) →
    Except Fault Bool
  | 0, _, _ => .error .tooDeep
  | fuel + 1, others, entries =>
    entries.foldlM (fun held (k, v) =>
      if held then do
        let found ← others.foldlM (fun found (k', v') =>
          match found with
          | some v => .ok (some v)
          | none => do return if ← equal w fuel k k' then some v' else none) none
        match found with
        | some v' => if sameObject v v' then return true else equal w fuel v v'
        | none => return false
      else .ok false) true

/-- Whether members have equal ones among others. -/
def equalMembers (w : World) : (fuel : Nat) → (others members : List Value) →
    Except Fault Bool
  | 0, _, _ => .error .tooDeep
  | fuel + 1, others, members =>
    members.foldlM (fun held v =>
      if held then others.foldlM (fun found other =>
        if found then .ok true
        else if sameObject v other then .ok true
        else equal w fuel v other) false
      else .ok false) true

end

/-- Whether two values are equal. -/
def isEqual (w : World) (a b : Value) : Except Fault Bool :=
  equal w deepest a b

/-- Whether two values are the same object or equal. -/
def isSame (w : World) (a b : Value) : Except Fault Bool :=
  if sameObject a b then .ok true else isEqual w a b

/-- The first two values by which two lists differ. -/
def firstDifference (w : World) :
    List Value → List Value → Except Fault (Option (Value × Value))
  | a :: as, b :: bs => do
    if ← isSame w a b then firstDifference w as bs else return some (a, b)
  | _, _ => .ok none

/-! ## Order -/

/-- Whether an order is the one asked for. -/
def Comparison.holds (op : Comparison) (o : Ordering) : Bool :=
  match op with
  | .less => o = .lt
  | .atMost => o ≠ .gt
  | .greater => o = .gt
  | .atLeast => o ≠ .lt
  | _ => false

/-- The order of two texts. -/
def compareTexts (s t : String) : Ordering :=
  if s < t then .lt else if s = t then .eq else .gt

/-- The order of two rows of octets. -/
def compareOctets : List UInt8 → List UInt8 → Ordering
  | [], [] => .eq
  | [], _ :: _ => .lt
  | _ :: _, [] => .gt
  | a :: as, b :: bs => if a = b then compareOctets as bs else compare a.toNat b.toNat

/-- Whether all members of one set are members of another, which has more of them if the order
is strict. -/
def isPartOf (w : World) (strict : Bool) (as bs : List Value) : Except Fault Bool :=
  if (if strict then as.length < bs.length else as.length ≤ bs.length) then
    equalMembers w deepest bs as
  else .ok false

/-- Whether the order of two sets is the one asked for. -/
def orderedSets (w : World) (op : Comparison) (as bs : List Value) : Except Fault Bool :=
  match op with
  | .less => isPartOf w true as bs
  | .atMost => isPartOf w false as bs
  | .greater => isPartOf w true bs as
  | .atLeast => isPartOf w false bs as
  | _ => .ok false

/-- Whether the order of two values is the one asked for. -/
def ordered (w : World) (op : Comparison) : (fuel : Nat) → Value → Value → Except Fault Bool
  | 0, _, _ => .error .tooDeep
  | fuel + 1, a, b =>
    let lists (as bs : List Value) : Except Fault Bool := do
      match ← firstDifference w as bs with
      | some (a, b) => ordered w op fuel a b
      | none => return op.holds (compare as.length bs.length)
    if a.isMissing || b.isMissing then .error .missing
    else
      match a.quantityOf?, b.quantityOf? with
      | some x, some y => .ok ((compareNumbers x y).any op.holds)
      | _, _ =>
        match a.textOf?, b.textOf? with
        | some s, some t => .ok (op.holds (compareTexts s t))
        | _, _ =>
          match a, b with
          | .list a, .list b => lists (w.listAt a) (w.listAt b)
          | .bytes a, .bytes b => .ok (op.holds (compareOctets a b))
          | a, b =>
            match a.tupleOf?, b.tupleOf? with
            | some s, some t => lists s t
            | _, _ =>
              match setItems? w a, setItems? w b with
              | some as, some bs => orderedSets w op as bs
              | _, _ => .error .wrongKind

/-- Whether the order of two values is the one asked for. -/
def isOrdered (w : World) (op : Comparison) (a b : Value) : Except Fault Bool :=
  ordered w op deepest a b

/-! ## Truth -/

/-- Whether a value counts as true. -/
def isTrue (v : Value) : Run Bool :=
  match v with
  | .none => return false
  | .truth b => return b
  | .number n => return n ≠ 0
  | .decimal x => return x != 0
  | .complex x => return !x.equals (.ofReal 0.0)
  | .text s => return !s.isEmpty
  | .markup s => return !s.isEmpty
  | .bytes b => return !b.isEmpty
  | .tuple items => return !items.isEmpty
  | .range first last step => return Value.rangeLength first last step ≠ 0
  | .list place => do return !(← listAt place).isEmpty
  | .mapping place => do return !(← entriesAt place).isEmpty
  | .proxy place => do return !(← entriesAt place).isEmpty
  | .view _ place _ => do return !(← entriesAt place).isEmpty
  | .set place => do return !(← setAt place).items.isEmpty
  | .object place => do
    match ← objectAt place with
    | .round _ => return (← Round.measure patience place) ≠ 0
    | _ => return true
  | .missing lenient => if lenient then return false else Run.fail .missing
  | _ => return true

end Tweaks.Banner
