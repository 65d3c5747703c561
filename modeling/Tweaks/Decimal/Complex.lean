import Tweaks.Decimal.Exact

/-!
# Complex numbers

Numbers with a real and an imaginary part, both doubles: what is computed with them, and how
they are written.
-/

namespace Tweaks.Decimal

/-- A complex number. -/
structure Complex where
  real : Float
  imaginary : Float
deriving Repr, Inhabited

namespace Complex

/-- A real number. -/
def ofReal (x : Float) : Complex := ⟨x, 0.0⟩

/-- Whether two numbers are equal. -/
def equals (a b : Complex) : Bool := a.real == b.real && a.imaginary == b.imaginary

/-- The sum of two numbers. -/
def add (a b : Complex) : Complex := ⟨a.real + b.real, a.imaginary + b.imaginary⟩

/-- The difference of two numbers. -/
def subtract (a b : Complex) : Complex := ⟨a.real - b.real, a.imaginary - b.imaginary⟩

/-- The product of two numbers. -/
def multiply (a b : Complex) : Complex :=
  ⟨a.real * b.real - a.imaginary * b.imaginary, a.real * b.imaginary + a.imaginary * b.real⟩

/-- The quotient of two numbers, unless the second one is zero. -/
def divide? (a b : Complex) : Option Complex :=
  if b.imaginary.abs ≤ b.real.abs then
    if b.real == 0.0 then none
    else
      let ratio := b.imaginary / b.real
      let whole := b.real + b.imaginary * ratio
      some ⟨(a.real + a.imaginary * ratio) / whole, (a.imaginary - a.real * ratio) / whole⟩
  else if b.real.abs ≤ b.imaginary.abs then
    let ratio := b.real / b.imaginary
    let whole := b.real * ratio + b.imaginary
    some ⟨(a.real * ratio + a.imaginary) / whole, (a.imaginary * ratio - a.real) / whole⟩
  else some ⟨0.0 / 0.0, 0.0 / 0.0⟩

/-- The distance of a number from zero. -/
def distance (a : Complex) : Float :=
  let x := a.real.abs
  let y := a.imaginary.abs
  let (small, large) := if x < y then (x, y) else (y, x)
  if small == 0.0 then large else (x * x + y * y).sqrt

/-- A power with a whole exponent that is not negative. -/
def powerWhole (a : Complex) (n : Nat) : Complex :=
  let rec go (fuel n : Nat) (result square : Complex) : Complex :=
    match fuel with
    | 0 => result
    | fuel + 1 =>
      if n = 0 then result
      else
        go fuel (n / 2) (if n % 2 = 1 then result.multiply square else result)
          (square.multiply square)
  go (n.log2 + 1) n (ofReal 1.0) a

/-- A power of a number that is not zero, with an exponent that is not zero. -/
def powerAny (a b : Complex) : Complex :=
  let length := a.distance.pow b.real
  let angle := a.imaginary.atan2 a.real
  let (length, turned) :=
    if b.imaginary == 0.0 then (length, angle * b.real)
    else
      (length * (-angle * b.imaginary).exp, angle * b.real + b.imaginary * a.distance.log)
  ⟨length * turned.cos, length * turned.sin⟩

/-- A power, unless it is one of zero with a negative or complex exponent. -/
def power? (a b : Complex) : Option Complex :=
  if b.imaginary == 0.0 && b.real.floor == b.real && b.real.abs ≤ 100.0 then
    let n := truncated b.real
    if n < 0 then (ofReal 1.0).divide? (a.powerWhole n.natAbs) else some (a.powerWhole n.natAbs)
  else if a.real == 0.0 && a.imaginary == 0.0 then
    if b.imaginary != 0.0 || b.real < 0.0 then none else some (ofReal 0.0)
  else some (a.powerAny b)

/-- A part of a number; a whole one has no places. -/
def partText (x : Float) : String :=
  let s := (text x).toList
  String.ofList (if ['.', '0'].isSuffixOf s then s.take (s.length - 2) else s)

/-- A number as it is written. -/
def text (a : Complex) : String :=
  let imaginary := partText a.imaginary ++ "j"
  if a.real == 0.0 && !isNegative a.real then imaginary
  else
    "(" ++ partText a.real ++
      (if isNegative a.imaginary && !a.imaginary.isNaN then "" else "+") ++ imaginary ++ ")"

end Complex

end Tweaks.Decimal
