import Tweaks.Banner.Relation

/-!
# Sorting

Values in the order of their keys, where two keys may turn out not to be comparable.
-/

namespace Tweaks.Banner

/-- The place of a value among sorted ones, behind all that it does not come before.  It is
looked for between two places by halving. -/
def insertionPlace (comesBefore : Value → Value → Except Fault Bool) (k : Value)
    (sorted : List (Value × Value)) : (fuel low high : Nat) → Except Fault Nat
  | 0, low, _ => .ok low
  | fuel + 1, low, high =>
    if high ≤ low then .ok low
    else
      let middle := (low + high) / 2
      match sorted[middle]? with
      | none => .ok low
      | some (other, _) => do
        if ← comesBefore k other then insertionPlace comesBefore k sorted fuel low middle
        else insertionPlace comesBefore k sorted fuel (middle + 1) high

/-- Sorted values with another one put among them. -/
def insertSorted (comesBefore : Value → Value → Except Fault Bool)
    (sorted : List (Value × Value)) (v : Value × Value) :
    Except Fault (List (Value × Value)) := do
  let place ← insertionPlace comesBefore v.1 sorted (sorted.length + 1) 0 sorted.length
  return sorted.take place ++ v :: sorted.drop place

/-- The values that go on falling, or go on without falling, behind a last one, and the
other ones. -/
def leadingRun (comesBefore : Value → Value → Except Fault Bool) (falls : Bool)
    (last : Value) : List (Value × Value) →
    Except Fault (List (Value × Value) × List (Value × Value))
  | [] => .ok ([], [])
  | v :: rest => do
    if (← comesBefore v.1 last) = falls then
      let (run, others) ← leadingRun comesBefore falls v.1 rest
      return (v :: run, others)
    else return ([], v :: rest)

/-- Values with their keys in the order of these; those that are equal keep theirs.  What is
in order at the start stays, and the others are put among it. -/
def sortByKeys (comesBefore : Value → Value → Except Fault Bool) :
    List (Value × Value) → Except Fault (List (Value × Value))
  | v :: next :: rest => do
    let falls ← comesBefore next.1 v.1
    let (run, others) ← leadingRun comesBefore falls next.1 rest
    let sorted := v :: next :: run
    others.foldlM (insertSorted comesBefore) (if falls then sorted.reverse else sorted)
  | values => .ok values

/-- Values in the order of their keys, or in the opposite order. -/
def sortValues (w : World) (reversed : Bool) (values : List (Value × Value)) :
    Except Fault (List Value) := do
  let sort := sortByKeys (isOrdered w .less)
  if reversed then return ((← sort values.reverse).map Prod.snd).reverse
  else return (← sort values).map Prod.snd

end Tweaks.Banner
