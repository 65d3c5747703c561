import Tweaks.Banner.Items

/-!
# Rounds of loops

A loop that its body may ask about its rounds gives its items one by one, looking at the next
one where that is asked for, and counting all of them where their number is.
-/

namespace Tweaks.Banner

-- Powers of whole numbers are those of the core library.
attribute [local instance (5000)] instPowNat

/-! ## Numbers of items -/

/-- The number of items of a value that is known without taking them, unless it is a loop. -/
def countOf (w : World) (v : Value) : Except Fault Nat :=
  match v with
  | .text s => .ok s.length
  | .markup s => .ok s.length
  | .range first last step =>
    let count := Value.rangeLength first last step
    if 2 ^ (63 : Nat) ≤ count then .error .tooLarge else .ok count
  | .set place => .ok (w.setAt place).items.length
  | v => (lastingItems w v).map List.length

namespace Round

/-- A loop over the items of a value. -/
def start (source : Value) (items : Items) (depth : Nat) (again : Option (Piece × Env)) :
    Round :=
  ⟨source, items, 0, none, none, none, none, depth, none, again⟩

instance : Inhabited Round := ⟨start .none default 0 none⟩

/-- Whether a loop is in its first round. -/
def isFirst (r : Round) : Bool := r.count = 1

/-- The number of all items of the loop at a place, once it is asked for: those of what the
items come from, or all that were given and are still to come. -/
def measure : (fuel : Nat) → (place : Nat) → Run Nat
  | 0, _ => Run.fail .tooDeep
  | fuel + 1, place => do
    match ← objectAt place with
    | .round r =>
      match r.length with
      | some n => return n
      | none => do
        let known ← (match r.source with
          | .object source => do
            match ← objectAt source with
            | .round _ => return some (← measure fuel source)
            | _ => return none
          | v => do
            match ← Run.attempt (Run.reading fun w => countOf w v) with
            | .ok n => return some n
            | .error .wrongKind => return none
            | .error fault => Run.fail fault)
        match known with
        | some n => do
          setObject place (.round { r with length := some n })
          return n
        | none => do
          let rest ← r.items.drain patience []
          let n := rest.length + r.count + (if r.ahead.isSome then 1 else 0)
          setObject place (.round { r with items := .fixed rest, length := some n })
          return n
    | _ => Run.fail .wrongKind

/-- The item that comes next in the loop at a place, if there is one. -/
def peek (place : Nat) (r : Round) : Run (Option Value) := do
  match r.ahead with
  | some v => return some v
  | none => do
    let (v, items) ← r.items.next
    setObject place (.round { r with items := items, ahead := v })
    return v

/-- The loop at a place comes to its next item, if there is one.  It is given together with the
loop. -/
def advance (place : Nat) (r : Round) : Run (Option Value) := do
  let (v, items) ← (match r.ahead with
    | some v => return (some v, r.items)
    | none => r.items.next)
  match v with
  | none => do
    setObject place (.round { r with items := items })
    return none
  | some v => do
    setObject place (.round { r with
      items := items
      count := r.count + 1
      ahead := none
      before := r.current
      current := some v })
    return some (.tuple [v, .object place])

/-- What the loop at a place is asked for by name. -/
def part? (place : Nat) (r : Round) (name : String) : Run (Option Value) := do
  let all : Run Int := do return ((← measure patience place : Nat) : Int)
  match name with
  | "index" => return some (.number r.count)
  | "index0" => return some (.number ((r.count : Int) - 1))
  | "revindex" => return some (.number ((← all) - r.count + 1))
  | "revindex0" => return some (.number ((← all) - r.count))
  | "first" => return some (.truth r.isFirst)
  | "last" => return some (.truth (← peek place r).isNone)
  | "length" => return some (.number (← all))
  | "previtem" => return some (if r.isFirst then .missing false else r.before.getD (.missing false))
  | "nextitem" => return some ((← peek place r).getD (.missing false))
  | "depth" => return some (.number (r.depth + 1))
  | "depth0" => return some (.number r.depth)
  | _ => return none

end Round

/-- The number of items of a value that is known without taking them. -/
def lengthOf (v : Value) : Run Nat := do
  match v with
  | .object place => do
    match ← objectAt place with
    | .round _ => Round.measure patience place
    | _ => Run.fail .wrongKind
  | v => Run.reading fun w => countOf w v

end Tweaks.Banner
