import Tweaks.Banner.Layout
import Tweaks.Banner.Worth

/-!
# Texts with marks

A text with percent signs that stand for values, which are written in their places: `%s`
for any value, `%d` for a whole number, `%.2f` for a decimal one, and so on.  The values
come from a tuple, one after the other, or by name from a mapping; any other value stands
for itself.
-/

namespace Tweaks.Banner

-- Powers of whole numbers are those of the core library.
attribute [local instance (5000)] instPowNat

/-- The values that marks ask for. -/
structure Wanted where
  /-- The values that are still to be asked for by their places. -/
  rest : List Value
  /-- The value that is asked for by names, if there is one. -/
  named : Option Value
deriving Inhabited

/-- The values that a value to the right of a text stands for. -/
def Wanted.of (v : Value) : Wanted :=
  match v.tupleOf? with
  | some items => ⟨items, none⟩
  | none =>
    match v with
    | .list _ | .mapping _ | .proxy _ | .range _ _ _ | .bytes _ | .missing _ => ⟨[v], some v⟩
    | v => ⟨[v], none⟩

/-- How a mark is written. -/
structure Mark where
  left : Bool
  plus : Bool
  blank : Bool
  marked : Bool
  zero : Bool
  width : Nat
  places : Option Nat
deriving DecidableEq, Repr, Inhabited

/-- How values are written in marks. -/
structure Spelling where
  /-- Any value. -/
  say : Value → Run (List Char)
  /-- Any value as it is shown within others. -/
  shown : Value → Run (List Char)
  /-- A value whose whole number counts. -/
  whole : Value → Except Fault Int
  /-- A value that is a whole number. -/
  exact : Value → Except Fault Int
  decimal : Value → Except Fault Float
  character : Value → Except Fault (List Char)
  /-- A value that says how wide a mark is, or how many places it has. -/
  size : Value → Except Fault Int
  /-- Whether octets are written. -/
  isOctets : Bool

/-- A whole number as an argument of a mark. -/
def exactOf (v : Value) : Except Fault Int :=
  orFault .wrongKind v.integerOf?

/-- How values are written in texts. -/
def Spelling.plain : Spelling where
  say v := do return (← Banner.say v).toList
  shown v := do return (← Banner.shown v).toList
  whole := wholeOf
  exact := exactOf
  decimal := decimalOf
  character := characterOf
  size := exactOf
  isOctets := false

/-- How values are written in marked-up texts: escaped.  A number may be spelled by a text. -/
def Spelling.markup : Spelling where
  say v := do return (← escape v).toList
  shown v := do return (escapeText (← Banner.shown v)).toList
  whole := toInteger (.number 10)
  exact _ := .error .wrongKind
  decimal := toDecimal
  character _ := .error .wrongKind
  size _ := .error .wrongKind
  isOctets := false

/-- The character that stands for an octet. -/
def octetChar (b : UInt8) : Char := Char.ofNat b.toNat

/-- How values are written in octets, for which characters stand: octets as they are, and other
values in ASCII as they are shown. -/
def Spelling.octets : Spelling where
  say v := match v with
    | .bytes b => return b.map octetChar
    | _ => Run.fail .wrongKind
  shown v := do return asciiOnly (← Banner.shown v).toList
  whole := wholeOf
  exact := exactOf
  decimal := decimalOf
  character v := match v with
    | .bytes [b] => .ok [octetChar b]
    | .bytes _ => .error .wrongKind
    | v => do
      let n ← exactOf v
      if 0 ≤ n && n < 256 then .ok [Char.ofNat n.toNat] else .error .tooLarge
  size := exactOf
  isOctets := true

/-- A sign and digits in the field of a mark. -/
def placeMark (m : Mark) (zeros : Bool) (sign s : List Char) : List Char :=
  let missing := m.width - (sign.length + s.length)
  if m.left then sign ++ s ++ List.replicate missing ' '
  else if zeros && m.zero then sign ++ List.replicate missing '0' ++ s
  else List.replicate missing ' ' ++ (sign ++ s)

/-- The sign of a number in a mark. -/
def Mark.sign (m : Mark) (negative : Bool) : List Char :=
  if negative then ['-'] else if m.plus then ['+'] else if m.blank then [' '] else []

/-- A whole number in a mark, by a kind of digits. -/
def integerMark (m : Mark) (kind : Char) (n : Int) : Except Fault (List Char) :=
  let base := if kind = 'o' then 8 else if kind = 'x' || kind = 'X' then 16 else 10
  if base = 10 && Document.isTooLong n then .error .wrongValue
  else
    let digits := Nat.toDigits base n.natAbs
    let digits := List.replicate (m.places.getD 0 - digits.length) '0' ++ digits
    let digits := if kind = 'X' then digits.map Char.toUpper else digits
    let before := if m.marked then
      (if kind = 'o' then "0o".toList else if kind = 'x' then "0x".toList
        else if kind = 'X' then "0X".toList else []) else []
    .ok (placeMark m true (m.sign (n < 0) ++ before) digits)

/-- A decimal number in a mark. -/
def decimalMark (m : Mark) (kind : Char) (x : Float) : Except Fault (List Char) := do
  let chars ← (if x.isNaN then
      .ok (if kind.isUpper then "NAN".toList else "nan".toList)
    else if x.isInf then .ok (if kind.isUpper then "INF".toList else "inf".toList)
    else magnitudeChars
      ⟨' ', none, none, false, m.marked, 0, none, some (m.places.getD 6), some kind⟩ x)
  return placeMark m true (m.sign (Decimal.isNegative x && !x.isNaN)) chars

/-- A value in a mark of the given kind. -/
def writeMark (spelling : Spelling) (m : Mark) (kind : Char) (v : Value) : Run (List Char) := do
  let cut (s : List Char) : List Char :=
    placeMark m false [] (match m.places with
      | some n => s.take n
      | none => s)
  if kind = 's' || (kind = 'b' && spelling.isOctets) then return cut (← spelling.say v)
  else if kind = 'r' then return cut (← spelling.shown v)
  else if kind = 'a' then return cut (asciiOnly (← spelling.shown v))
  else if ['d', 'i', 'u'].contains kind then
    Run.lift ((spelling.whole v).bind (integerMark m kind))
  else if ['o', 'x', 'X'].contains kind then
    Run.lift ((spelling.exact v).bind (integerMark m kind))
  else if ['e', 'E', 'f', 'F', 'g', 'G'].contains kind then
    Run.lift ((spelling.decimal v).bind (decimalMark m kind))
  else if kind = 'c' then return placeMark m false [] (← Run.lift (spelling.character v))
  else Run.fail .wrongValue

/-- The name in a mark, up to the bracket that closes it. -/
def markName : (depth : Nat) → List Char → Option (List Char × List Char)
  | _, [] => none
  | depth, '(' :: s => (markName (depth + 1) s).map fun (t, rest) => ('(' :: t, rest)
  | 0, ')' :: s => some ([], s)
  | depth + 1, ')' :: s => (markName depth s).map fun (t, rest) => (')' :: t, rest)
  | depth, c :: s => (markName depth s).map fun (t, rest) => (c :: t, rest)

/-- The signs in a mark that say how it is written. -/
def markSigns (m : Mark) : List Char → Mark × List Char
  | '-' :: s => markSigns { m with left := true } s
  | '+' :: s => markSigns { m with plus := true } s
  | ' ' :: s => markSigns { m with blank := true } s
  | '#' :: s => markSigns { m with marked := true } s
  | '0' :: s => markSigns { m with zero := true } s
  | s => (m, s)

/-- The next value that is asked for by its place. -/
def Wanted.next (wanted : Wanted) : Except Fault (Value × Wanted) :=
  match wanted.rest with
  | [] => .error .wrongKind
  | v :: rest => .ok (v, { wanted with rest := rest })

/-- A number in a mark: digits, or the next value.  It is not to be larger than the given
one. -/
def markNumber (size : Value → Except Fault Int) (most : Int) (wanted : Wanted)
    (s : List Char) : Except Fault (Option Int × Wanted × List Char) :=
  match s with
  | '*' :: s => do
    let (v, wanted) ← wanted.next
    let n ← size v
    if most < n || n < -most then .error .tooLarge else return (some n, wanted, s)
  | s =>
    let digits := s.takeWhile Char.isDigit
    if most < Text.digitsValue digits then .error .wrongValue
    else .ok (if digits.isEmpty then none else some (Text.digitsValue digits), wanted,
      s.dropWhile Char.isDigit)

/-- A text with its marks written.  `part` finds values by name. -/
def fillMarks (spelling : Spelling) (part : Value → List Char → Run Value) :
    (fuel : Nat) → Wanted → List Char → Run (List Char)
  | 0, _, _ => Run.fail .tooDeep
  | fuel + 1, wanted, s =>
    match s with
    | [] =>
      if wanted.rest.isEmpty || wanted.named.isSome then return [] else Run.fail .wrongKind
    | '%' :: '%' :: s => do return '%' :: (← fillMarks spelling part fuel wanted s)
    | '%' :: s => do
      let (wanted, s) ← (match s with
        | '(' :: s =>
          match wanted.named with
          | none => Run.fail .wrongKind
          | some v =>
            match markName 0 s with
            | none => Run.fail .wrongValue
            | some (name, rest) => do
              return ({ wanted with rest := [← part v name] }, rest)
        | s => return (wanted, s))
      let (m, s) := markSigns ⟨false, false, false, false, false, 0, none⟩ s
      let (width, wanted, s) ← Run.lift (markNumber spelling.size (2 ^ (63 : Nat) - 1) wanted s)
      let m := match width with
        | some n => { m with left := m.left || n < 0, width := n.natAbs }
        | none => m
      let (m, wanted, s) ← (match s with
        | '.' :: s => do
          let (places, wanted, s) ←
            Run.lift (markNumber spelling.size (2 ^ (31 : Nat) - 1) wanted s)
          return ({ m with places := some (places.getD 0).toNat }, wanted, s)
        | s => return (m, wanted, s))
      let s := match s with
        | c :: rest => if c = 'h' || c = 'l' || c = 'L' then rest else s
        | [] => []
      match s with
      | [] => Run.fail .wrongValue
      | kind :: s => do
        let (v, wanted) ← Run.lift wanted.next
        let written ← (if widest < m.width then do
            let _ ← writeMark spelling { m with width := 0 } kind v
            Run.fail .tooMuch
          else writeMark spelling m kind v)
        return written ++ (← fillMarks spelling part fuel wanted s)
    | c :: s => do return c :: (← fillMarks spelling part fuel wanted s)

end Tweaks.Banner
