import Tweaks.Banner.Show
import Tweaks.Decimal.Exact
import Tweaks.Decimal.Spelled
import Tweaks.Text.HalfPair

/-!
# What values are worth

The whole and decimal numbers that values are or spell, and the characters that numbers stand
for.
-/

namespace Tweaks.Banner

/-! ## Numbers of numbers -/

/-- A value's whole number, which a decimal number has as far as it is finite. -/
def wholeOf (v : Value) : Except Fault Int :=
  match v with
  | .decimal x =>
    if x.isNaN then .error .wrongValue else if x.isInf then .error .tooLarge
    else .ok (Decimal.truncated x)
  | .missing _ => .error .missing
  | v => orFault .wrongKind v.integerOf?

/-- A value's decimal number. -/
def decimalOf (v : Value) : Except Fault Float :=
  match v with
  | .decimal x => .ok x
  | .missing _ => .error .missing
  | v => do
    let n ← orFault .wrongKind v.integerOf?
    orFault .tooLarge (Decimal.ofInteger? n)

/-- The character that a value stands for. -/
def characterOf (v : Value) : Except Fault (List Char) :=
  match v.textOf? with
  | some s => if s.length = 1 then .ok s.toList else .error .wrongKind
  | none => do
    let n ← orFault .wrongKind v.integerOf?
    if n < 0 then .error .tooLarge else do return [← orFault .tooLarge (Text.numbered? n.toNat)]

/-! ## Numbers of texts -/

/-- The characters by which a value may spell a number. -/
def spelling? (v : Value) : Option (List Char) :=
  match v with
  | .bytes b => some (b.map fun b => if b < 128 then Char.ofNat b.toNat else '\ufffd')
  | v => v.textOf?.map String.toList

/-- The decimal number that a value is or spells. -/
def toDecimal (v : Value) : Except Fault Float :=
  match spelling? v with
  | some s => orFault .wrongValue (Decimal.double? s)
  | none => decimalOf v

/-- A base to which numbers may be spelled; zero where their spelling says which. -/
def baseOf (base : Value) : Except Fault Nat :=
  match base.integerOf? with
  | none => .error .wrongKind
  | some b => if b = 0 || (2 ≤ b && b ≤ 36) then .ok b.toNat else .error .wrongValue

/-- The whole number that characters spell to a base. -/
def spelledInteger (base : Value) (s : List Char) : Except Fault Int := do
  orFault .wrongValue (Decimal.integer? (← baseOf base) s)

/-- The whole number that a value is or spells; a text may spell it to a base. -/
def toInteger (base v : Value) : Except Fault Int :=
  match spelling? v with
  | some s => spelledInteger (if v.textOf?.isSome then base else .number 10) s
  | none => wholeOf v

/-- A value as it is shown, with escapes for all characters beyond ASCII. -/
def asciiOnly (s : List Char) : List Char :=
  s.flatMap fun c =>
    if c.toNat < 128 then [c] else Text.escapeByNumber ((Text.halfNumber? c).getD c.toNat)

/-! ## Rounding -/

/-- How far a number is from zero. -/
def magnitudeOf (v : Value) : Except Fault Value :=
  match v with
  | .decimal x => .ok (.decimal x.abs)
  | .complex x => .ok (.decimal x.distance)
  | v => (orFault .wrongKind v.integerOf?).map fun n => .number n.natAbs

/-- A number rounded to places behind the point, a half to the even neighbour. -/
def roundTo (v precision : Value) : Except Fault Value :=
  match v with
  | .decimal x =>
    match precision with
    | .none => do
      let n ← wholeOf v
      let fraction := x - Float.ofInt n
      let isOdd := n % 2 ≠ 0
      let away := 0.5 < fraction.abs || (fraction.abs == 0.5 && isOdd)
      return .number (if away then (if fraction < 0 then n - 1 else n + 1) else n)
    | precision => do
      let places ← orFault .wrongKind precision.integerOf?
      if x.isNaN || x.isInf then return v
      else
        let y := Decimal.roundPlaces x places
        if y.isInf then .error .tooLarge else return .decimal y
  | v => do
    let n ← orFault .wrongKind v.integerOf?
    match precision with
    | .none => return .number n
    | precision => do
      let places ← orFault .wrongKind precision.integerOf?
      let zeros := min (-places).toNat (n.natAbs.log2 + 2)
      return .number (if 0 ≤ places then n else Decimal.roundInteger n zeros)

/-- The whole number beside a number, above it or below it. -/
def wholeBeside (above : Bool) (v : Value) : Except Fault Value :=
  match v with
  | .decimal x => do
    let n ← wholeOf v
    let o := Decimal.compareInteger x n
    return .number (if above then (if o = .gt then n + 1 else n)
      else (if o = .lt then n - 1 else n))
  | v => (orFault .wrongKind v.integerOf?).map .number

end Tweaks.Banner
