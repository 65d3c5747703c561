import Tweaks.Banner.World

/-!
# Members of sets

Sets have no order of their own.  Their members stand where their numbers put them in a table
that grows with them; those of which no number is known stand in the order in which they came.
-/

namespace Tweaks.Banner

-- Powers of whole numbers are those of the core library.
attribute [local instance (5000)] instPowNat

/-! ## Numbers of values -/

/-- The prime by which numbers are reduced. -/
def reducer : Nat := 2 ^ (61 : Nat) - 1

/-- A number of sixty-four bits with a sign, where -1 is not used. -/
def signedNumber (negative : Bool) (n : Nat) : Int :=
  let i : Int := if negative then -n else n
  if i = -1 then -2 else i

/-- The number of a whole number. -/
def integerNumber (n : Int) : Int :=
  signedNumber (n < 0) (n.natAbs % reducer)

/-- The number of a decimal number; there is none for one that is not a number. -/
def decimalNumber? (x : Float) : Option Int :=
  if x.isNaN then none
  else if x.isInf then some (if x < 0 then -314159 else 314159)
  else
    let (num, den) := Decimal.fraction x
    let halvings := den.log2
    some (signedNumber (x < 0)
      (num % reducer * 2 ^ ((61 - halvings % 61) % 61) % reducer))

/-- A number of sixty-four bits without a sign as one with a sign. -/
def asSigned (n : UInt64) : Int :=
  if n.toNat < 2 ^ (63 : Nat) then n.toNat else (n.toNat : Int) - 2 ^ (64 : Nat)

/-- The number of a complex number. -/
def complexNumber? (x : Decimal.Complex) : Option Int := do
  let real ← decimalNumber? x.real
  let imaginary ← decimalNumber? x.imaginary
  let n := UInt64.ofInt real + 1000003 * UInt64.ofInt imaginary
  return if asSigned n = -1 then -2 else asSigned n

/-- The number of a tuple whose items have the given ones. -/
def tupleNumber (numbers : List Int) : Int :=
  let mix (n : UInt64) (item : Int) : UInt64 :=
    let n := n + UInt64.ofInt item * 14029467366897019727
    (n <<< 31 ||| n >>> 33) * 11400714785074694791
  let n := numbers.foldl mix 2870177450012600261 +
    (UInt64.ofNat numbers.length ^^^ (2870177450012600261 ^^^ 3527539))
  if n = 18446744073709551615 then 1546275796 else asSigned n

/-- The number by which a value is put into a table, if it is known. -/
def valueNumber? (v : Value) : Option Int :=
  match v with
  | .number n => some (integerNumber n)
  | .truth b => some (if b then 1 else 0)
  | .decimal x => decimalNumber? x
  | .complex x => complexNumber? x
  | .text s => if s.isEmpty then some 0 else none
  | .markup s => if s.isEmpty then some 0 else none
  | .bytes b => if b.isEmpty then some 0 else none
  | .tuple items => (numbersOf? items).map tupleNumber
  | _ => none
where
  /-- The numbers of several values, if all of them are known. -/
  numbersOf? : List Value → Option (List Int)
    | [] => some []
    | v :: rest => do
      let n ← valueNumber? v
      return n :: (← numbersOf? rest)

/-! ## Tables -/

/-- A table: numbered members, and places that are free. -/
abbrev Table := Array (Option (Int × Value))

/-- The first free place among so many from one on. -/
def freePlace? (table : Table) (i : Nat) : (count : Nat) → Option Nat
  | 0 => none
  | count + 1 =>
    match table[i]? with
    | some none => some i
    | _ => freePlace? table (i + 1) count

/-- The place of a new member of a table: where its number puts it, or soon behind, or where
other parts of its number put it. -/
def placeFor (table : Table) : (fuel : Nat) → (i rest : Nat) → Nat
  | 0, i, _ => i
  | fuel + 1, i, rest =>
    match freePlace? table i (if i + 9 < table.size then 10 else 1) with
    | some i => i
    | none =>
      let rest := rest / 32
      placeFor table fuel ((i * 5 + 1 + rest) % table.size) rest

/-- A table with another member. -/
def placed (table : Table) (member : Int × Value) : Table :=
  let n := (UInt64.ofInt member.1).toNat
  table.setIfInBounds (placeFor table (table.size + 20) (n % table.size) n) (some member)

/-- The smallest size of a table that is more than a number. -/
def tableSize (n : Nat) : Nat :=
  if n < 8 then 8 else 2 ^ (n.log2 + 1)

/-- A table with another member, which grows when it is more than three fifths full. -/
def grown (table : Table) (member : Int × Value) : Table :=
  let table := placed table member
  let members := table.filterMap id
  if members.size * 5 < (table.size - 1) * 3 then table
  else
    let size := tableSize (if 50000 < members.size then members.size * 2 else members.size * 4)
    members.foldl placed (Array.replicate size none)

/-- The members of a set in their order. -/
def Members.arranged (members : Members) : List Value :=
  match members.items.mapM fun v => (valueNumber? v).map fun n => (n, v) with
  | none => members.items
  | some numbered =>
    let table := numbered.foldl grown (Array.replicate members.size none)
    (table.filterMap id).toList.map Prod.snd

/-- The members of the set at a place in their order. -/
def World.membersAt (w : World) (place : Nat) : List Value :=
  (w.setAt place).arranged

end Tweaks.Banner
