import Tweaks.Banner.TextMethod
import Tweaks.Decimal.Spelled

/-!
# What numbers do

The answers of numbers to what they are asked by name, and numbers in octets.
-/

namespace Tweaks.Banner

-- Powers of whole numbers are those of the core library.
attribute [local instance (5000)] instPowNat

/-! ## Numbers -/

/-- The fraction that a decimal number is, in lowest terms. -/
def lowestTerms (x : Float) : Except Fault Value :=
  if x.isNaN then .error .wrongValue
  else if x.isInf then .error .tooLarge
  else
    let (num, den) := Decimal.fraction x
    let g := num.gcd den
    let n : Int := num / g
    .ok (.tuple [.number (if Decimal.isNegative x then -n else n), .number (den / g)])

/-- What a number answers. -/
def numberMethod (v : Value) (name : String) (places : List Value) : Run Value :=
  if !places.isEmpty then Run.fail .wrongKind
  else
    match v, name with
    | .decimal x, "is_integer" => return .truth (Decimal.isWhole x)
    | .decimal x, "conjugate" => return .decimal x
    | .decimal x, "hex" => return .text (Decimal.hexText x)
    | .decimal x, "as_integer_ratio" => Run.lift (lowestTerms x)
    | .complex x, "conjugate" => return .complex ⟨x.real, -x.imaginary⟩
    | v, name =>
      match v.integerOf?, name with
      | some n, "bit_length" => return .number (if n = 0 then 0 else n.natAbs.log2 + 1)
      | some n, "bit_count" => return .number ((Nat.toDigits 2 n.natAbs).countP (· = '1'))
      | some n, "conjugate" => return .number n
      | some n, "as_integer_ratio" => return .tuple [.number n, .number 1]
      | _, _ => Run.fail .wrongKind

/-! ## Octets -/

/-- Whether the larger part of a number stands first in octets, and whether the number may have
a sign, as arguments say. -/
def octetOrder (given : Scope) (signs : Scope) : Run (Bool × Bool) := do
  let order ← Run.lift (((given.lookup "byteorder").map textArgument).getD (.ok "big"))
  let signed ← (match signs with
    | [(_, v)] => isTrue v
    | _ => return false)
  if order ≠ "big" && order ≠ "little" then Run.fail .wrongValue
  else return (order = "big", signed)

/-- Arguments by name without those that say whether there are signs, and these. -/
def withoutSigns (named : Scope) : Scope × Scope :=
  let (signs, others) := named.partition fun (name, _) => name = "signed"
  (others, signs)

/-- A whole number in octets, as many as asked for, the larger part first or last. -/
def octetsOfNumber (n : Int) (places : List Value) (named : Scope) : Run Value := do
  let (named, signs) := withoutSigns named
  let given ← Run.lift (bindArguments ["length", "byteorder"] places named)
  let count ← Run.lift (((given.lookup "length").map sizeArgument).getD (.ok 1))
  let (largeFirst, signed) ← octetOrder given signs
  if count < 0 then Run.fail .wrongValue
  else if widest < count then Run.fail .tooMuch
  else
    let room : Int := 256 ^ count.toNat
    let fits : Bool := if signed then -room ≤ 2 * n && 2 * n < room else 0 ≤ n && n < room
    if fits then
      let octets := Text.numberOctets largeFirst count.toNat (n.emod room).toNat
      return .bytes (octets.map UInt8.ofNat)
    else Run.fail .tooLarge

/-- A whole number as an octet. -/
def octetArgument (v : Value) : Except Fault UInt8 := do
  let n ← integerArgument v
  if 0 ≤ n && n < 256 then return UInt8.ofNat n.toNat else .error .wrongValue

/-- The octets that a value is or holds. -/
def octetsOfValue (v : Value) : Run (List UInt8) :=
  match v with
  | .bytes b => return b
  | .text _ | .markup _ => Run.fail .wrongKind
  | v => mapItems (fun v => Run.lift (octetArgument v)) v

/-- The whole number that octets stand for. -/
def numberOfOctets (largeFirst signed : Bool) (octets : List UInt8) : Int :=
  let n := Text.octetsNumber largeFirst (octets.map UInt8.toNat)
  let room := 256 ^ octets.length
  if signed && room ≤ 2 * n then (n : Int) - room else n

/-- The whole number that octets stand for, as arguments say. -/
def numberFromOctets (places : List Value) (named : Scope) : Run Int := do
  let (named, signs) := withoutSigns named
  let given ← Run.lift (bindArguments ["bytes", "byteorder"] places named)
  match given.lookup "bytes" with
  | none => Run.fail .wrongKind
  | some v => do
    let (largeFirst, signed) ← octetOrder given signs
    return numberOfOctets largeFirst signed (← octetsOfValue v)

end Tweaks.Banner
