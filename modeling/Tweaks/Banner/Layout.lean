import Tweaks.Banner.Show
import Tweaks.Decimal.Exact
import Tweaks.Text.HalfPair
import Tweaks.Text.Letter

/-!
# Layouts

How a text or number is laid out in a field: where it stands, what fills the field up,
and how the digits of a number are written.  A layout is spelled by a few characters, such
as `-^60` for a field of sixty with dashes around the text.

Main results:

- `layText_rule`: a text in the middle of dashes.
-/

namespace Tweaks.Banner

-- Powers of whole numbers are those of the core library.
attribute [local instance (5000)] instPowNat

/-- Where something stands in its field. -/
inductive Side where
  | left
  | right
  | middle
  /-- The sign on the left, the digits on the right. -/
  | apart
deriving DecidableEq, Repr

/-- How something is laid out. -/
structure Layout where
  fill : Char
  side : Option Side
  /-- What stands before a number that is not negative. -/
  sign : Option Char
  /-- Whether a zero is never negative. -/
  plainZero : Bool
  /-- Whether numbers are marked by what kind of digits they have. -/
  marked : Bool
  width : Nat
  separator : Option Char
  places : Option Nat
  kind : Option Char
deriving DecidableEq, Repr, Inhabited

/-! ## Reading -/

/-- The side that a character stands for. -/
def sideOf? (c : Char) : Option Side :=
  if c = '<' then some .left
  else if c = '>' then some .right
  else if c = '^' then some .middle
  else if c = '=' then some .apart
  else none

/-- The number at the start of a text, if there is one, and the rest. -/
def leadingNumber (s : List Char) : Option Nat × List Char :=
  let digits := s.takeWhile Text.isDecimalDigit
  (if digits.isEmpty then none else some (Text.digitsValue digits),
    s.dropWhile Text.isDecimalDigit)

/-- Whether the next character is the given one, and the rest behind it. -/
def takeChar (c : Char) (s : List Char) : Bool × List Char :=
  match s with
  | d :: rest => if d = c then (true, rest) else (false, s)
  | [] => (false, [])

/-- The fill and side that a layout starts with. -/
def leadingSide (s : List Char) : Option Char × Option Side × List Char :=
  match s with
  | c :: d :: rest =>
    match sideOf? d with
    | some side => (some c, some side, rest)
    | none =>
      match sideOf? c with
      | some side => (none, some side, d :: rest)
      | none => (none, none, s)
  | [c] =>
    match sideOf? c with
    | some side => (none, some side, [])
    | none => (none, none, s)
  | [] => (none, none, [])

/-- The width of the widest field that there is room for. -/
def widest : Nat := 10 ^ (10 : Nat)

/-- The layout that characters spell.  `isNumber` says whether it is for a number, whose
sign stands before zeros that fill up a field. -/
def Layout.read (isNumber : Bool) (s : List Char) : Except Fault Layout := do
  let (fill, side, s) := leadingSide s
  let (sign, s) : Option Char × List Char := match s with
    | c :: rest => if c = '+' || c = '-' || c = ' ' then (some c, rest) else (none, s)
    | [] => (none, [])
  let (plainZero, s) := takeChar 'z' s
  let (marked, s) := takeChar '#' s
  let (zero, s) := if fill.isNone then takeChar '0' s else (false, s)
  let side := if zero && isNumber then some (side.getD .apart) else side
  let fill := if zero then '0' else fill.getD ' '
  let (width, s) := leadingNumber s
  let (comma, s) := takeChar ',' s
  let (low, s) := takeChar '_' s
  let (comma', s) := if low then takeChar ',' s else (false, s)
  if low && (comma || comma') then .error .wrongValue
  else
    let separator := if comma then some ',' else if low then some '_' else none
    let (point, s) := takeChar '.' s
    let (places, s) := if point then leadingNumber s else (none, s)
    if point && places.isNone then .error .wrongValue
    else if 2 ^ (63 : Nat) ≤ width.getD 0 ||
        (if isNumber then 2 ^ (31 : Nat) else 2 ^ (63 : Nat)) ≤ places.getD 0 then
      .error .wrongValue
    else if widest < width.getD 0 then .error .tooMuch
    else
      match s with
      | [] =>
        return ⟨fill, side, sign, plainZero, marked, width.getD 0, separator, places, none⟩
      | [c] =>
        return ⟨fill, side, sign, plainZero, marked, width.getD 0, separator, places, some c⟩
      | _ => .error .wrongValue

/-! ## Filling up -/

/-- What stands in a field, with the field filled up around it.  `before` is what stays on
the left of a number. -/
def fillUp (l : Layout) (usual : Side) (before s : List Char) : List Char :=
  let missing := l.width - (before.length + s.length)
  match l.side.getD usual with
  | .left => before ++ s ++ List.replicate missing l.fill
  | .right => List.replicate missing l.fill ++ (before ++ s)
  | .middle =>
    List.replicate (missing / 2) l.fill ++ (before ++ s) ++
      List.replicate (missing - missing / 2) l.fill
  | .apart => before ++ List.replicate missing l.fill ++ s

/-- Digits in groups from the right; zeros are put before them as far as the width asks
for. -/
def groupDigits (size : Nat) (separator : Char) : (fuel : Nat) → (width : Nat) →
    (backwards : List Char) → List Char
  | 0, _, digits => digits.reverse
  | fuel + 1, width, digits =>
    let count := min size (max (max digits.length width) 1)
    let taken := digits.take count
    let group := List.replicate (count - taken.length) '0' ++ taken.reverse
    let rest := digits.drop count
    if rest.isEmpty && width ≤ count then group
    else groupDigits size separator fuel (width - count - 1) rest ++ separator :: group

/-! ## Texts -/

/-- A text laid out. -/
def layText (l : Layout) (s : List Char) : Except Fault (List Char) :=
  if l.kind.any (· ≠ 's') || l.sign.isSome || l.plainZero || l.marked || l.separator.isSome ||
      l.side = some .apart then .error .wrongValue
  else
    let s := match l.places with
      | some n => s.take n
      | none => s
    .ok (fillUp l .left [] s)

/-- A text in the middle of dashes. -/
theorem layText_rule (width : Nat) (s : List Char) :
    layText ⟨'-', some .middle, none, false, false, width, none, none, none⟩ s =
      .ok (List.replicate ((width - s.length) / 2) '-' ++ s ++
        List.replicate ((width - s.length) - (width - s.length) / 2) '-') := by
  simp [layText, fillUp]

/-! ## Numbers -/

/-- What stands before the digits of a number. -/
def signChars (l : Layout) (negative : Bool) : List Char :=
  if negative then ['-']
  else
    match l.sign with
    | some c => if c = '-' then [] else [c]
    | none => []

/-- Digits and what stands before and behind them, laid out. -/
def layDigits (l : Layout) (size : Nat) (before digits behind : List Char) : List Char :=
  let digits := match l.separator with
    | none => digits
    | some separator =>
      let width := if l.fill = '0' && l.side = some .apart then
        l.width - before.length - behind.length else 0
      if digits.isEmpty then digits
      else groupDigits size separator (l.width + digits.length) width digits.reverse
  fillUp l .right before (digits ++ behind)

/-- A decimal number with the digits that its layout asks for, without its sign. -/
def magnitudeChars (l : Layout) (x : Float) : Except Fault (List Char) :=
  let (num, den) := Decimal.fraction x
  let places := l.places.getD 6
  match l.kind with
  | none =>
    match l.places with
    | none => .ok (Decimal.text x.abs).toList
    | some n => .ok (Decimal.general 'e' num den n l.marked true)
  | some kind =>
    if kind = 'f' || kind = 'F' || kind = '%' then .ok (Decimal.fixed num den places l.marked)
    else if kind = 'e' || kind = 'E' then .ok (Decimal.exponential kind num den places l.marked)
    else if kind = 'g' || kind = 'n' then .ok (Decimal.general 'e' num den places l.marked false)
    else if kind = 'G' then .ok (Decimal.general 'E' num den places l.marked false)
    else .error .wrongValue

/-- A decimal number laid out. -/
def layDecimal (l : Layout) (x : Float) : Except Fault (List Char) := do
  let x := if l.kind = some '%' then x * 100.0 else x
  let large := l.kind.any Char.isUpper
  let chars ← (if x.isNaN then
      (if l.kind.all ['e', 'E', 'f', 'F', 'g', 'G', 'n', '%'].contains then
        .ok (if large then "NAN".toList else "nan".toList) else .error .wrongValue)
    else if x.isInf then
      (if l.kind.all ['e', 'E', 'f', 'F', 'g', 'G', 'n', '%'].contains then
        .ok (if large then "INF".toList else "inf".toList) else .error .wrongValue)
    else magnitudeChars l x)
  if l.kind = some 'n' && l.separator.isSome then throw .wrongValue
  let isZero := chars.all fun c => !c.isDigit || c = '0'
  let negative := Decimal.isNegative x && !x.isNaN &&
    !(l.plainZero && isZero && !x.isInf)
  let behind := if l.kind = some '%' then ['%'] else []
  return layDigits l 3 (signChars l negative) (chars.takeWhile Char.isDigit)
    (chars.dropWhile Char.isDigit ++ behind)

/-- A whole number laid out by a kind of digits. -/
def layBase (l : Layout) (base size : Nat) (mark : String) (n : Int) : List Char :=
  let digits := Nat.toDigits base n.natAbs
  let digits := if l.kind = some 'X' then digits.map Char.toUpper else digits
  layDigits l size (signChars l (n < 0) ++ (if l.marked then mark.toList else [])) digits []

/-- A whole number laid out. -/
def layInteger (l : Layout) (n : Int) : Except Fault (List Char) :=
  let kind := l.kind.getD 'd'
  if ['e', 'E', 'f', 'F', 'g', 'G', '%'].contains kind then
    match Decimal.ofInteger? n with
    | some x => layDecimal l x
    | none => .error .tooLarge
  else if !(['d', 'n', 'b', 'o', 'x', 'X', 'c'].contains kind) then .error .wrongValue
  else if l.places.isSome || l.plainZero then .error .wrongValue
  else if kind = 'c' then
    if l.sign.isSome || l.marked || l.separator.isSome then .error .wrongValue
    else if n < 0 then .error .tooLarge
    else do return fillUp l .right [] [← orFault .tooLarge (Text.numbered? n.toNat)]
  else if kind = 'd' || kind = 'n' then
    if kind = 'n' && l.separator.isSome then .error .wrongValue
    else if Document.isTooLong n then .error .wrongValue
    else .ok (layBase l 10 3 "" n)
  else if l.separator = some ',' then .error .wrongValue
  else if kind = 'b' then .ok (layBase l 2 4 "0b" n)
  else if kind = 'o' then .ok (layBase l 8 4 "0o" n)
  else .ok (layBase l 16 4 (if kind = 'X' then "0X" else "0x") n)

/-- The sign and digits of a part of a complex number, as far as its layout asks for them.  A
sign that is not asked for may have to stand there. -/
def layPart (l : Layout) (signed : Bool) (x : Float) : Except Fault (List Char) := do
  let l := { l with
    fill := ' '
    side := none
    width := 0
    sign := if signed then some '+' else l.sign }
  if l.kind.isSome || x.isNaN || x.isInf then layDecimal l x
  else
    let (num, den) := Decimal.fraction x
    let chars := match l.places with
      | some n => Decimal.general 'e' num den n l.marked false
      | none => (Decimal.Complex.partText x.abs).toList
    let isZero := chars.all fun c => !c.isDigit || c = '0'
    let negative := Decimal.isNegative x && !(l.plainZero && isZero)
    return layDigits l 3 (signChars l negative) (chars.takeWhile Char.isDigit)
      (chars.dropWhile Char.isDigit)

/-- A complex number laid out: between brackets where nothing is said about its digits, unless
it has no real part. -/
def layComplex (l : Layout) (x : Decimal.Complex) : Except Fault (List Char) := do
  if !(l.kind.all ['e', 'E', 'f', 'F', 'g', 'G', 'n'].contains) then .error .wrongValue
  else if l.fill = '0' || l.side = some .apart then .error .wrongValue
  else
    let isBare := l.kind.isNone && x.real == 0.0 && !Decimal.isNegative x.real
    let real ← if isBare then pure [] else layPart l false x.real
    let imaginary ← layPart l (!isBare) x.imaginary
    let written := real ++ imaginary ++ ['j']
    return fillUp l .right []
      (if l.kind.isNone && !isBare then '(' :: written ++ [')'] else written)

/-! ## Values -/

/-- A value laid out as the characters say. -/
def layValue (v : Value) (layout : String) : Run String := do
  if layout.isEmpty then say v
  else
    let numbered (f : Layout → Except Fault (List Char)) : Run String :=
      Run.lift ((Layout.read true layout.toList).bind fun l => (f l).map String.ofList)
    match v with
    | .decimal x => numbered fun l => layDecimal l x
    | .number n => numbered fun l => layInteger l n
    | .truth b => numbered fun l => layInteger l (if b then 1 else 0)
    | .complex x => numbered fun l => layComplex l x
    | v =>
      match v.textOf? with
      | some s => Run.lift ((Layout.read false layout.toList).bind fun l =>
        (layText l s.toList).map String.ofList)
      | none => Run.fail .wrongKind

end Tweaks.Banner
