import Tweaks.Decimal.Spelled
import Tweaks.Document
import Tweaks.Text.Blank
import Tweaks.Text.Octets
import Tweaks.Yaml.Kind

/-!
# Values of YAML scalars

The value that a scalar of a known kind stands for, or the reason why there is
none: a kind may be claimed by a tag for a text that does not fit it, and a text
may have the shape of a value that does not exist.
-/

namespace Tweaks.Yaml

open Kind

/-! ## Numbers -/

/-- Reads an integer of a base. -/
def integer (base : Nat) (s : List Char) : Result Int :=
  match Decimal.integer? base s with
  | some n => .ok n
  | none => .error .impossibleValue

/-- Reads each part of a number, and the number that they make up in base
sixty. -/
def integerParts (parts : List (List Char)) : Result Int := do
  let numbers ← parts.mapM (integer 10)
  return numbers.foldl (fun value n => 60 * value + n) 0

/-- A number without its underscores, and whether it is negative. -/
def signed (s : List Char) : Result (Bool × List Char) :=
  match s.filter (· ≠ '_') with
  | [] => .error .emptyNumber
  | c :: rest =>
    if c = '-' then .ok (true, rest)
    else if c = '+' then .ok (false, rest)
    else .ok (false, c :: rest)

/-- The value of an integer. -/
def intValue (s : List Char) : Result Int := do
  let (negative, body) ← signed s
  let value ← (match body with
    | [] => .error .emptyNumber
    | ['0'] => .ok 0
    | '0' :: 'b' :: rest => integer 2 rest
    | '0' :: 'x' :: rest => integer 16 rest
    | '0' :: _ => integer 8 body
    | _ => if body.contains ':' then integerParts (splitColons body) else integer 10 body :
      Result Int)
  return if negative then -value else value

/-- Reads a number with a point or an exponent or neither, or a word for one. -/
def double (s : List Char) : Result Float :=
  match Decimal.double? s with
  | some x => .ok x
  | none => .error .impossibleValue

/-- The sum of doubles, each by a power of sixty from the given one on.  No power may be beyond
the doubles. -/
def sixtieths (sum : Float) (place : Nat) : List Float → Result Float
  | [] => .ok sum
  | x :: rest =>
    let base := Decimal.toDouble (60 ^ place) 0
    if base.isInf then .error .tooLarge else sixtieths (sum + x * base) (place + 1) rest

/-- The value of a number with a point. -/
def floatValue (s : List Char) : Result Float := do
  let (negative, body) ← signed (s.map Char.toLower)
  let value ← (match body with
    | ['.', 'i', 'n', 'f'] => .ok (1.0 / 0.0)
    | ['.', 'n', 'a', 'n'] => .ok (0.0 / 0.0)
    | _ =>
      if body.contains ':' then do
        sixtieths 0.0 0 (← (splitColons body).mapM double).reverse
      else double body : Result Float)
  return if negative && !value.isNaN then -value else value

/-! ## Dates -/

/-- The microseconds of a fraction of a second. -/
def microseconds (fraction : List Char) : Nat :=
  ((fraction ++ List.replicate 6 '0').take 6).foldl (fun n d => 10 * n + (d.toNat - 48)) 0

/-- A clock's offset from universal time in seconds. -/
def offsetSeconds (zone : Option (Bool × Nat × Nat)) : Int :=
  match zone with
  | none => 0
  | some (negative, hours, minutes) =>
    let seconds : Int := hours * 3600 + minutes * 60
    if negative then -seconds else seconds

/-- The day, or the moment if a time is given, that a date stands for. -/
def timestampValue (s : List Char) : Result Document :=
  match date? (if s.getLast? = some '\n' then s.dropLast else s) with
  | none => .error .shapelessMoment
  | some d =>
    let date : Date := ⟨d.year, d.month, d.day⟩
    match d.clock with
    | none => if date.isValid then .ok (.date date) else .error .impossibleValue
    | some clock =>
      let moment : Moment :=
        ⟨date, clock.hour, clock.minute, clock.second, microseconds clock.fraction,
          clock.zone.map offsetSeconds⟩
      if moment.isValid then .ok (.moment moment) else .error .impossibleValue

/-! ## Scalars -/

/-- The truth value of a word, in any mixture of small and large letters. -/
def boolValue (s : List Char) : Result Bool :=
  match boolWords.lookup (String.ofList (s.map Char.toLower)) with
  | some value => .ok value
  | none => .error .unknownWord

/-- The octets of a text in base 64. -/
def binaryValue (s : List Char) : Result (List UInt8) :=
  if s.all fun c => c.toNat < 128 then
    match Text.base64? s with
    | some octets => .ok (octets.map UInt8.ofNat)
    | none => .error .malformed
  else .error .malformed

/-- The value of a scalar of a kind.  Kinds of collections have none. -/
def scalarValue (kind : Kind) (s : List Char) : Result Document :=
  match kind with
  | .null => .ok .null
  | .bool => (boolValue s).map .bool
  | .int => (intValue s).map .int
  | .float => (floatValue s).map .float
  | .binary => (binaryValue s).map .bytes
  | .timestamp => timestampValue s
  | .str => .ok (.text (String.ofList s))
  | _ => .error .malformed

end Tweaks.Yaml
