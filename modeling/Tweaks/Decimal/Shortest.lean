/-!
# Shortest decimals

The shortest decimal that reads back as a given double, and its text: digits
with a point for magnitudes from a ten-thousandth up to ten thousand billion,
an exponent of at least two digits beyond.

The reals that round to a double form an interval whose ends lie halfway to the
neighbouring doubles.  The search looks at ever finer grids of powers of ten for
a point in that interval; the first grid with one has the fewest digits, and of
two points the one nearer to the double is taken.
-/

namespace Tweaks.Decimal

-- Powers of whole numbers are those of the core library.
attribute [local instance (5000)] instPowNat

/-- A positive double `mantissa * 2 ^ exponent`, by exact numbers.  Below a
power of two the doubles lie twice as close, which `narrow` records. -/
structure Dyadic where
  mantissa : Nat
  exponent : Int
  narrow : Bool
deriving DecidableEq, Repr

/-- The magnitude of the double with the given bits; infinities and non-numbers
have none. -/
def Dyadic.ofBits (bits : UInt64) : Dyadic :=
  let biased := (bits >>> 52 &&& 0x7ff).toNat
  let fraction := (bits &&& 0xfffffffffffff).toNat
  if biased = 0 then ⟨fraction, -1074, false⟩
  else ⟨fraction + 2 ^ (52 : Nat), (biased : Int) - 1075, fraction = 0 && 1 < biased⟩

/-- The integer power of a base as a fraction: numerator and denominator. -/
def powerFraction (base : Nat) (e : Int) : Nat × Nat :=
  (base ^ e.toNat, base ^ (-e).toNat)

/-- A grid of powers of ten laid over a double.  A multiple `d` of the grid's
step and a multiple `k` of a quarter of the double's last binary place compare
as `d * step` and `k * quarter`. -/
structure Grid where
  step : Nat
  quarter : Nat
deriving DecidableEq, Repr

/-- The grid of multiples of `10 ^ e`, for a double. -/
def Dyadic.grid (x : Dyadic) (e : Int) : Grid :=
  let ten := powerFraction 10 e
  let unit := powerFraction 2 (x.exponent - 2)
  ⟨ten.1 * unit.2, unit.1 * ten.2⟩

/-- Whether the multiple `d` of a grid's step rounds to the double.  The ends of
the interval count for an even mantissa, since a tie rounds to even. -/
def Dyadic.covers (x : Dyadic) (g : Grid) (d : Nat) : Bool :=
  let low := (if x.narrow then 4 * x.mantissa - 1 else 4 * x.mantissa - 2) * g.quarter
  let high := (4 * x.mantissa + 2) * g.quarter
  let point := d * g.step
  if x.mantissa % 2 = 0 then low ≤ point && point ≤ high
  else low < point && point < high

/-- Of the two multiples next to the double, the one that rounds to it; of two
the nearer, and the even one when both are as near. -/
def Dyadic.pick? (x : Dyadic) (g : Grid) : Option Nat :=
  let value := 4 * x.mantissa * g.quarter
  let d := value / g.step
  match x.covers g d, x.covers g (d + 1) with
  | false, false => none
  | true, false => some d
  | false, true => some (d + 1)
  | true, true =>
    let twice := 2 * value
    let middle := (2 * d + 1) * g.step
    if twice < middle then some d
    else if middle < twice then some (d + 1)
    else if d % 2 = 0 then some d else some (d + 1)

/-- The decimal `digits * 10 ^ exponent`. -/
structure Value where
  digits : Nat
  exponent : Int
deriving DecidableEq, Repr

/-- Looks for a decimal on the grids of `10 ^ e`, `10 ^ (e - 1)` and so on. -/
def Dyadic.search (x : Dyadic) : (steps : Nat) → (e : Int) → Option Value
  | 0, _ => none
  | steps + 1, e =>
    match x.pick? (x.grid e) with
    | some d => some ⟨d, e⟩
    | none => x.search steps (e - 1)

/-- The exact decimal value. -/
def Dyadic.exact (x : Dyadic) : Value :=
  ⟨x.mantissa * 2 ^ x.exponent.toNat * 5 ^ (-x.exponent).toNat, min x.exponent 0⟩

/-- The shortest decimal that reads back as the double.  The first grid is too
coarse for it, and twenty-four grids reach past the seventeenth digit. -/
def Dyadic.shortest (x : Dyadic) : Value :=
  let top := ((x.mantissa.log2 + x.exponent + 1) * 30103).fdiv 100000 + 2
  (x.search 24 top).getD x.exact

/-- The digits of a decimal. -/
def digitChars (n : Nat) : List Char :=
  Nat.toDigits 10 n

/-- The exponent of a scientific notation: a sign and at least two digits. -/
def exponentChars (e : Int) : List Char :=
  let digits := digitChars e.natAbs
  (if e < 0 then '-' else '+') :: (if digits.length < 2 then '0' :: digits else digits)

/-- The text of a positive decimal: with a point for a leading digit between the
ten-thousandths and the quadrillions, with an exponent beyond. -/
def Value.chars (d : Value) : List Char :=
  let digits := digitChars d.digits
  let lead := d.exponent + digits.length - 1
  if -4 ≤ lead && lead < 16 then
    if 0 ≤ d.exponent then digits ++ List.replicate d.exponent.toNat '0' ++ ['.', '0']
    else if 0 ≤ lead then
      digits.take (lead.toNat + 1) ++ '.' :: digits.drop (lead.toNat + 1)
    else '0' :: '.' :: List.replicate ((-lead).toNat - 1) '0' ++ digits
  else
    let tail := digits.drop 1
    digits.take 1 ++ (if tail.isEmpty then [] else '.' :: tail) ++ 'e' :: exponentChars lead

/-- The text of a double: the shortest decimal that reads back as it. -/
def text (x : Float) : String :=
  if x.isNaN then "nan"
  else
    let bits := x.toBits
    let sign := if bits >>> 63 = 1 then "-" else ""
    if x.isInf then sign ++ "inf"
    else
      let magnitude := Dyadic.ofBits bits
      if magnitude.mantissa = 0 then sign ++ "0.0"
      else sign ++ String.ofList magnitude.shortest.chars

/-- The double nearest to `digits * 10 ^ exponent`.  Far beyond the range of
doubles the answer is known without computing the power. -/
def toDouble (digits : Nat) (exponent : Int) : Float :=
  if digits = 0 then 0.0
  else if 400 < exponent then 1.0 / 0.0
  else if exponent + (digitChars digits).length < -400 then 0.0
  else if 0 ≤ exponent then Float.ofScientific (digits * 10 ^ exponent.toNat) false 0
  else Float.ofScientific digits true (-exponent).toNat

end Tweaks.Decimal
