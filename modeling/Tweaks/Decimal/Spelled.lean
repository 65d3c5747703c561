import Tweaks.Decimal.Complex
import Tweaks.Decimal.Shortest
import Tweaks.Text.Blank
import Tweaks.Text.Letter
import Tweaks.Text.Markup

/-!
# Numbers in texts

The whole and decimal numbers that texts spell: with a sign, blanks around them, the
decimal digits of all scripts, and single low lines between digits.  And the doubles that they
spell with hexadecimal digits, a point between them, and an exponent of two.
-/

namespace Tweaks.Decimal

/-- The greatest number of decimal digits with which a whole number is read or written. -/
def mostDigits : Nat := 4300

/-- Whether a character may stand around a number. -/
def isNumberBlank (c : Char) : Bool :=
  Text.isBlank c && !(0x1c ≤ c.toNat && c.toNat ≤ 0x1f)

/-- A text without the blanks around a number. -/
def withoutBlanks (s : List Char) : List Char :=
  ((s.dropWhile isNumberBlank).reverse.dropWhile isNumberBlank).reverse

/-- Whether a text starts with a minus sign, and the text behind a sign. -/
def signOf (s : List Char) : Bool × List Char :=
  match s with
  | '-' :: s => (true, s)
  | '+' :: s => (false, s)
  | s => (false, s)

/-- Digits without the low lines between them, if these stand between digits one by one. -/
def withoutLowLines? (isDigit : Char → Bool) : List Char → Option (List Char)
  | [] => none
  | [c] => if isDigit c then some [c] else none
  | c :: '_' :: s =>
    if isDigit c then (withoutLowLines? isDigit s).map (c :: ·) else none
  | c :: d :: s => if isDigit c then (withoutLowLines? isDigit (d :: s)).map (c :: ·) else none

/-! ## Whole numbers -/

/-- The value of a digit or of a letter that stands for one. -/
def digitWorth? (c : Char) : Option Nat :=
  (Text.decimalValue? c).or
    (let c := c.toLower
      if 'a' ≤ c ∧ c ≤ 'z' then some (c.toNat - 87) else none)

/-- The base of a number that a mark behind a zero stands for. -/
def markedBase? (c : Char) : Option Nat :=
  let c := c.toLower
  if c = 'b' then some 2 else if c = 'o' then some 8 else if c = 'x' then some 16 else none

/-- The base of a number and its digits without the mark of the base, behind which a low
line may stand.  The base zero stands for the one that the number is marked by. -/
def baseAndDigits (base : Nat) (s : List Char) : Nat × List Char :=
  match s with
  | '0' :: m :: rest =>
    match markedBase? m with
    | some b =>
      if base = 0 || base = b then
        (b, match rest with
          | '_' :: rest => rest
          | rest => rest)
      else (base, s)
    | none => (if base = 0 then 10 else base, s)
  | s => (if base = 0 then 10 else base, s)

/-- The whole number to a base that a text spells. -/
def integer? (base : Nat) (s : List Char) : Option Int := do
  let (negative, s) := signOf (withoutBlanks s)
  let (b, digits) := baseAndDigits base s
  let digits ← withoutLowLines? (fun c => (digitWorth? c).any (· < b)) digits
  let n := digits.foldl (fun n c => b * n + (digitWorth? c).getD 0) 0
  if (!([2, 4, 8, 16, 32].contains b) && mostDigits < digits.length) ||
      (base = 0 && b = 10 && n ≠ 0 && digits.head? = some '0') then none
  else return if negative then -n else n

/-! ## Decimal numbers -/

/-- The digits at the start of a text, without the low lines between them, and the rest. -/
def leadingDigits? (s : List Char) : Option (List Char × List Char) :=
  let isPart (c : Char) : Bool := Text.isDecimalDigit c || c = '_'
  let run := s.takeWhile isPart
  if run.isEmpty then some ([], s)
  else (withoutLowLines? Text.isDecimalDigit run).map fun digits => (digits, s.dropWhile isPart)

/-- The exponent that a text spells: none, or a letter, a sign and digits. -/
def exponent? (s : List Char) : Option Int :=
  match s with
  | [] => some 0
  | c :: s =>
    if c.toLower = 'e' then
      let (negative, s) := signOf s
      match leadingDigits? s with
      | some (digit :: digits, []) =>
        let n : Int := Text.digitsValue (digit :: digits)
        some (if negative then -n else n)
      | _ => none
    else none

/-- The double that is nearest to the number that a text without sign and blanks spells. -/
def magnitude? (s : List Char) : Option Float :=
  let word := String.ofList (s.map Char.toLower)
  if word = "inf" || word = "infinity" then some (1.0 / 0.0)
  else if word = "nan" then some (0.0 / 0.0)
  else do
    let (whole, rest) ← leadingDigits? s
    let (fraction, rest) ← (match rest with
      | '.' :: rest => leadingDigits? rest
      | rest => some ([], rest))
    let e ← exponent? rest
    if whole.isEmpty && fraction.isEmpty then none
    else return toDouble (Text.digitsValue (whole ++ fraction)) (e - fraction.length)

/-- The double that is nearest to the number that a text spells. -/
def double? (s : List Char) : Option Float :=
  let (negative, s) := signOf (withoutBlanks s)
  (magnitude? s).map fun x => if negative then -x else x

/-! ## Complex numbers -/

/-- How many characters at the start of a text are digits, or low lines between them. -/
def digitsLength (s : List Char) : Nat :=
  (s.takeWhile fun c => Text.isDecimalDigit c || c = '_').length

/-- How many characters at the start of a text spell the sign of a number. -/
def signLength (s : List Char) : Nat :=
  match s with
  | c :: _ => if c = '+' || c = '-' then 1 else 0
  | [] => 0

/-- How many characters at the start of a text spell an exponent. -/
def exponentLength (s : List Char) : Nat :=
  match s with
  | c :: rest =>
    let before := signLength rest
    let digits := digitsLength (rest.drop before)
    if c.toLower = 'e' && 0 < digits then 1 + before + digits else 0
  | [] => 0

/-- How many characters at the start of a text spell a number without a sign. -/
def magnitudeLength (s : List Char) : Nat :=
  let starts (word : String) : Bool :=
    String.ofList ((s.take word.length).map Char.toLower) = word
  if starts "infinity" then 8
  else if starts "inf" || starts "nan" then 3
  else
    let whole := digitsLength s
    let point := if s[whole]? = some '.' then 1 else 0
    let fraction := if point = 1 then digitsLength (s.drop (whole + 1)) else 0
    if whole + fraction = 0 then 0
    else
      let length := whole + point + fraction
      length + exponentLength (s.drop length)

/-- How many characters at the start of a text spell a number. -/
def realLength (s : List Char) : Nat :=
  let before := signLength s
  let length := magnitudeLength (s.drop before)
  if length = 0 then 0 else before + length

/-- Whether a text is the mark of an imaginary part. -/
def isImaginaryMark (s : List Char) : Bool :=
  s = ['j'] || s = ['J']

/-- The imaginary part that a text spells; one that is one may go without digits. -/
def imaginary? (s : List Char) : Option Float :=
  let length := realLength s
  if length ≠ 0 then if isImaginaryMark (s.drop length) then double? (s.take length) else none
  else
    let (negative, rest) := signOf s
    if isImaginaryMark rest then some (if negative then -1.0 else 1.0) else none

/-- A text without the brackets around it, of which there are both or none. -/
def withoutBrackets? (s : List Char) : Option (List Char) :=
  match s with
  | '(' :: rest =>
    match rest.reverse with
    | ')' :: inner => some (withoutBlanks inner.reverse)
    | _ => none
  | s => some s

/-- The complex number that a text spells. -/
def complex? (s : List Char) : Option Complex := do
  let s ← withoutBrackets? (withoutBlanks s)
  let length := realLength s
  let rest := s.drop length
  if length ≠ 0 && rest.isEmpty then return .ofReal (← double? s)
  else if length ≠ 0 && 0 < signLength rest then
    return ⟨← double? (s.take length), ← imaginary? rest⟩
  else return ⟨0.0, ← imaginary? s⟩

/-! ## The base sixteen -/

-- Powers of whole numbers are those of the core library.
attribute [local instance (5000)] instPowNat

/-- Whether a character is blank in ASCII. -/
def isPlainBlank (c : Char) : Bool :=
  c = ' ' || (9 ≤ c.toNat && c.toNat ≤ 13)

/-- The double for a word that stands for no digits, and what is behind it. -/
def wordDouble? (s : List Char) : Option (Float × List Char) :=
  let (negative, s) := signOf s
  let starts (word : String) : Bool :=
    String.ofList ((s.take word.length).map Char.toLower) = word
  let signed (x : Float) : Float := if negative then -x else x
  if starts "infinity" then some (signed (1.0 / 0.0), s.drop 8)
  else if starts "inf" then some (signed (1.0 / 0.0), s.drop 3)
  else if starts "nan" then some (0.0 / 0.0, s.drop 3)
  else none

/-- The double that is nearest to a number times a power of two; there is none if it lies
beyond all doubles. -/
def scaledDouble? (n : Nat) (e : Int) : Option Float :=
  let top : Int := e + n.log2
  if n = 0 then some 0.0
  else if 1024 < top then none
  else if top < -1200 then some 0.0
  else if 0 ≤ e then ofInteger? (n * 2 ^ e.toNat)
  else quotient? n (2 ^ (-e).toNat)

/-- The exponent behind hexadecimal digits, and the rest. -/
def binaryExponent? (s : List Char) : Option (Int × List Char) :=
  match s with
  | c :: rest =>
    if c = 'p' || c = 'P' then
      let (negative, rest) := signOf rest
      let digits := rest.takeWhile Char.isDigit
      let e : Int := Text.digitsValue digits
      if digits.isEmpty then none
      else some (if negative then -e else e, rest.dropWhile Char.isDigit)
    else some (0, s)
  | [] => some (0, [])

/-- The digits of a number without a sign, how many of them stand behind the point, and the
rest. -/
def hexDigits (s : List Char) : List Char × Nat × List Char :=
  let isDigit (c : Char) : Bool := (Text.hexDigit? c).isSome
  let whole := s.takeWhile isDigit
  match s.dropWhile isDigit with
  | '.' :: rest =>
    let fraction := rest.takeWhile isDigit
    (whole ++ fraction, fraction.length, rest.dropWhile isDigit)
  | rest => (whole, 0, rest)

/-- The double that a text spells to the base sixteen, if it spells one; there is none if it
lies beyond all doubles. -/
def hexDouble? (s : List Char) : Option (Option Float) := do
  let s := s.dropWhile isPlainBlank
  let (x, rest) ← (match wordDouble? s with
    | some (x, rest) => some (some x, rest)
    | none => do
      let (negative, s) := signOf s
      let s := match s with
        | '0' :: 'x' :: s => s
        | '0' :: 'X' :: s => s
        | s => s
      let (digits, places, s) := hexDigits s
      if digits.isEmpty then none
      else
        let (e, s) ← binaryExponent? s
        let x := scaledDouble? (Text.hexValue digits) (e - 4 * places)
        return (x.map fun x => if negative then -x else x, s))
  if (rest.dropWhile isPlainBlank).isEmpty then some x else none

end Tweaks.Decimal
