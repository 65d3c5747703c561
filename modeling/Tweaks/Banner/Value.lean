import Tweaks.Decimal.Complex
import Tweaks.Document.Display
import Tweaks.Text.Quoted

/-!
# Values in banners

What the expressions of a banner stand for: texts, numbers, truth values, tuples and
ranges, which are what they hold; lists, mappings and other objects, which can be
changed and are known by their places; kinds, functions and methods; and names without a value.
A name without a value must not be used, but for asking whether it has one.
-/

namespace Tweaks.Banner

/-- How a mapping is looked at. -/
inductive View where
  | keys
  | values
  | entries
deriving DecidableEq, Repr, Inhabited

/-- What kind of thing a value is. -/
inductive Kind where
  | none
  | truth
  | number
  | decimal
  | complex
  | text
  | markup
  | bytes
  | tuple
  | group
  | range
  | list
  | mapping
  | set
  | view (view : View)
  | proxy
  /-- What kinds themselves are. -/
  | kind
  /-- What everything is. -/
  | anything
  | alias
  | cycle
  | separator
  | record
  | round
  | routine
  | banner
  | block
  | missing (lenient : Bool)
  /-- Another kind, of which there is no more to say than its name. -/
  | other (name : String)
deriving DecidableEq, Repr, Inhabited

/-- A value of an expression. -/
inductive Value where
  | none
  | truth (value : Bool)
  | number (value : Int)
  | decimal (value : Float)
  | complex (value : Decimal.Complex)
  | text (value : String)
  /-- A text that stands in marked-up text as it is. -/
  | markup (value : String)
  | bytes (value : List UInt8)
  | tuple (items : List Value)
  /-- A tuple of the value by which others are grouped, and the list of these. -/
  | group (key items : Value)
  /-- Whole numbers from the first up to another one, in steps. -/
  | range (first last step : Int)
  /-- The list at a place. -/
  | list (place : Nat)
  /-- The mapping at a place. -/
  | mapping (place : Nat)
  /-- The set at a place. -/
  | set (place : Nat)
  /-- One of several looks at the mapping at a place. -/
  | view (view : View) (place look : Nat)
  /-- The mapping at a place, which cannot be changed through this value. -/
  | proxy (place : Nat)
  /-- Another object, which is known by its place. -/
  | object (place : Nat)
  | kind (self : Kind)
  /-- A kind, and what is to be in values of this kind. -/
  | alias (owner : Kind) (parts : List Value)
  /-- The function of this name. -/
  | function (name : String)
  /-- What a value does when it is asked by this name, as it was asked at one time. -/
  | method (name : String) (owner : Value) (look : Nat)
  /-- What values of a kind do when they are asked by this name. -/
  | unbound (owner : Kind) (name : String)
  /-- What values of a kind have under this name. -/
  | field (owner : Kind) (name : String)
  /-- What an operation answers that there is none of for its values. -/
  | unsupported
  /-- The banner itself, from which its blocks can be asked. -/
  | banner
  | block (name : String)
  /-- What stands for nothing.  Unless it is lenient it must not even be said. -/
  | missing (lenient : Bool)
deriving Repr, Inhabited

/-- Why a banner cannot be read or filled in. -/
inductive Fault where
  /-- A value that is missing is used. -/
  | missing
  /-- A filter or test that there is none of is used. -/
  | unknownUse
  /-- Something is used in a way that it does not allow. -/
  | unfit
  /-- A value of another kind is needed. -/
  | wrongKind
  /-- A value of the kind does not fit. -/
  | wrongValue
  | divisionByZero
  /-- A number beyond those that can be computed with. -/
  | tooLarge
  /-- More than there is room for. -/
  | tooMuch
  /-- Too much within itself. -/
  | tooDeep
  /-- A mapping has no such key. -/
  | noKey
  /-- A list has no such place. -/
  | noPlace
  /-- A value has no such part. -/
  | noPart
  /-- A number that has no spelling is used by its name. -/
  | noName
  /-- A condition of a filter is not met. -/
  | unmet
  /-- A text has a character that stands for nothing by itself. -/
  | notEncodable
  /-- Octets spell no text. -/
  | notDecodable
  /-- There is no encoding of a name, or nothing to be done about what it lacks. -/
  | noEncoding
  /-- An encoding refuses a text or octets as a whole. -/
  | refused
  /-- What is spelled well makes no sense, such as a name that is given twice. -/
  | illFormed
  /-- Too many bodies lie within each other. -/
  | tooNested
  /-- Nothing is given to choose from. -/
  | noChoice
  /-- A mapping is changed while its entries are gone through. -/
  | unsettled
  /-- A supply has no more values. -/
  | spent
deriving DecidableEq, Repr

namespace Value

/-! ## Kinds -/

/-- A value's text, if it is one. -/
def textOf? : Value → Option String
  | text s => some s
  | markup s => some s
  | _ => Option.none

/-- A value's whole number, if it is one; truth values count as one and zero. -/
def integerOf? : Value → Option Int
  | number n => some n
  | truth b => some (if b then 1 else 0)
  | _ => Option.none

/-- The items of a tuple, if a value is one. -/
def tupleOf? : Value → Option (List Value)
  | tuple items => some items
  | group key items => some [key, items]
  | _ => Option.none

/-- Whether a value is missing. -/
def isMissing : Value → Bool
  | missing _ => true
  | _ => false

/-- Whether a value stands for nothing in a way that may be said. -/
def isLenient : Value → Bool
  | missing lenient => lenient
  | _ => false

/-- Whether a value is a decimal number. -/
def isDecimal : Value → Bool
  | decimal _ => true
  | _ => false

/-- The number of whole numbers in a range. -/
def rangeLength (first last step : Int) : Nat :=
  if step < 0 then ((first - last - step - 1) / (-step)).toNat
  else if step = 0 then 0
  else ((last - first + step - 1) / step).toNat

/-- The whole numbers in a range. -/
def rangeItems (first last step : Int) : List Value :=
  (List.range (rangeLength first last step)).map fun (i : Nat) => number (first + i * step)

/-- Whether a value is a number that no digits spell. -/
def isUnspelled : Value → Bool
  | decimal x => x.isNaN || x.isInf
  | complex x => x.real.isNaN || x.real.isInf || x.imaginary.isNaN || x.imaginary.isInf
  | _ => false

/-! ## Places -/

/-- A bound of a slice as a place: counted from the end where it is negative, and
moved to the nearest place from `low` to `high`. -/
def sliceBound (length : Nat) (low high : Int) (bound : Int) : Int :=
  let i := if bound < 0 then bound + length else bound
  if i < low then low else if high < i then high else i

/-- The first place of a slice, and the place that it does not reach.  A negative step
goes from the end to the start. -/
def sliceBounds (length : Nat) (start stop : Option Int) (step : Int) : Int × Int :=
  let low : Int := if step < 0 then -1 else 0
  let high : Int := if step < 0 then length - 1 else length
  let first := match start with
    | some bound => sliceBound length low high bound
    | .none => if step < 0 then high else low
  let last := match stop with
    | some bound => sliceBound length low high bound
    | .none => if step < 0 then low else high
  (first, last)

/-- The places from one to another in steps that are not zero. -/
def slicePlaces (length : Nat) (start stop : Option Int) (step : Int) : List Nat :=
  let (first, last) := sliceBounds length start stop step
  ((List.range (rangeLength first last step)).map fun (i : Nat) =>
    (first + i * step).toNat).filter (· < length)

/-- The place that a number gives, counted from the end where it is negative. -/
def placeOf? (length : Nat) (n : Int) : Option Nat :=
  let i := if n < 0 then n + length else n
  if 0 ≤ i && i < length then some i.toNat else Option.none

end Value

end Tweaks.Banner
