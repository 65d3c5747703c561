import Tweaks.Banner.Filter.Basic

/-!
# Filters of numbers

What the filters make of numbers: absolute values, rounded ones, sizes of files, and the
numbers that texts spell.
-/

namespace Tweaks.Banner

/-! ## From texts to numbers -/

/-- A computation, or another value where it breaks off because a value of another kind is
needed or does not fit. -/
def orElse {α : Type} (x : Except Fault α) (other : Except Fault α) : Except Fault α :=
  match x with
  | .error .wrongKind => other
  | .error .wrongValue => other
  | x => x

/-- The whole number that a value is or spells behind a point, unless it has no end. -/
def belowPoint? (v : Value) : Except Fault (Option Int) :=
  match (toDecimal v).bind fun x => wholeOf (.decimal x) with
  | .ok n => .ok (some n)
  | .error .tooLarge => .ok none
  | .error fault => orElse (.error fault) (.ok none)

/-- The value of `int`: the whole number that a value is or spells, be it behind a point. -/
def applyInt (given : Scope) (v : Value) : Except Fault Value :=
  let whole := toInteger (argumentOr given "base" (.number 10)) v
  orElse (whole.map .number) ((belowPoint? v).map fun n =>
    n.elim (argumentOr given "default" (.number 0)) .number)

/-- The value of `float`. -/
def applyFloat (given : Scope) (v : Value) : Except Fault Value :=
  orElse ((toDecimal v).map .decimal) (.ok (argumentOr given "default" (.decimal 0.0)))

/-! ## Rounding -/

/-- The value of `round`. -/
def applyRound (given : Scope) (v : Value) : Run Value := do
  let precision := argumentOr given "precision" (.number 0)
  let method := argumentOr given "method" (.text "common")
  Run.lift (checkKey deepest method)
  match method.textOf? with
  | some "common" => Run.lift (roundTo v precision)
  | some "ceil" | some "floor" => do
    let scale ← operate .power (.number 10) precision
    let scaled ← operate .multiply v scale
    let whole ← Run.lift (wholeBeside (method.textOf? = some "ceil") scaled)
    operate .divide whole (← operate .power (.number 10) precision)
  | _ => Run.fail .unfit

/-! ## Sizes of files -/

/-- The names of sizes, each a thousand times the one before, or 1024 times. -/
def sizeNames (binary : Bool) : List String :=
  if binary then ["KiB", "MiB", "GiB", "TiB", "PiB", "EiB", "ZiB", "YiB"]
  else ["kB", "MB", "GB", "TB", "PB", "EB", "ZB", "YB"]

/-- The first size that a number does not fill up, or the last one: its name, and the number
of octets above it. -/
def sizeOf (base : Nat) (x : Float) : (above : Nat) → List String → String × Nat
  | above, [] => ("", above)
  | above, [name] => (name, above)
  | above, name :: rest =>
    if Decimal.compareInteger x above = .lt && !x.isNaN then (name, above)
    else sizeOf base x (above * base) rest

/-- The value of `filesizeformat`: a number of octets in the largest size that it fills. -/
def applyFileSize (given : Scope) (v : Value) : Run Value := do
  let x ← Run.lift (toDecimal v)
  let binary ← flag given "binary" false
  let base : Nat := if binary then 1024 else 1000
  if x == 1.0 then return .text "1 Byte"
  else if x < Float.ofNat base then
    let n ← Run.lift (wholeOf (.decimal x))
    return .text (Document.integerText n ++ " Bytes")
  else
    let (name, above) := sizeOf base x (base * base) (sizeNames binary)
    let share := Float.ofNat base * x / (Decimal.ofInteger? above).getD 1.0
    let written ← layValue (.decimal share) ".1f"
    return .text (written ++ " " ++ name)

/-! ## Table -/

/-- The filters of numbers. -/
def numberFilters : Filters := [
  ("abs", .plain fun v => Run.lift (magnitudeOf v)),
  ("filesizeformat", ⟨["binary"], 0, applyFileSize⟩),
  ("float", ⟨["default"], 0, fun given v => Run.lift (applyFloat given v)⟩),
  ("int", ⟨["default", "base"], 0, fun given v => Run.lift (applyInt given v)⟩),
  ("round", ⟨["precision", "method"], 0, applyRound⟩)]

end Tweaks.Banner
