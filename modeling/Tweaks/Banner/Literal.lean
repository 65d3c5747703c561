import Tweaks.Banner.Marks
import Tweaks.Text.Escape

/-!
# Texts and numbers in tags

How the texts between quotes and the numbers within the tags of a banner are spelled.  A
text may name characters behind a backslash: by letters, by numbers to the base eight or
sixteen, or by their Unicode names.  A number may have low lines between its digits.
-/

namespace Tweaks.Banner

/-! ## Texts -/

/-- The text up to a closing quote, and what is behind the quote. -/
def quoted? (mark : Char) : List Char → Option (List Char × List Char)
  | [] => none
  | '\\' :: [] => none
  | '\\' :: c :: s => (quoted? mark s).map fun (t, rest) => ('\\' :: c :: t, rest)
  | c :: s =>
    if c = mark then some ([], s)
    else (quoted? mark s).map fun (t, rest) => (c :: t, rest)

/-- What stands for a letter or sign and what follows behind a backslash, and the rest. -/
def escape? (c : Char) (s : List Char) : Option (List Char × List Char) :=
  match Text.escaped (c :: s) with
  | .ok (t, count) => some (t, (c :: s).drop count)
  | .error _ => none

/-- A text with what its backslashes stand for. -/
def unescaped? : (fuel : Nat) → List Char → Option (List Char)
  | 0, _ => none
  | _ + 1, [] => some []
  | _ + 1, '\\' :: [] => none
  | fuel + 1, '\\' :: c :: s => do
    let (t, rest) ← escape? c s
    return t ++ (← unescaped? fuel rest)
  | fuel + 1, c :: s => (unescaped? fuel s).map (c :: ·)

/-- What a text between quotes stands for.  Backslashes do not reach beyond ASCII. -/
def literalText? (s : List Char) : Option String :=
  let s := asciiOnly s
  (unescaped? (s.length + 1) s).map String.ofList

/-! ## Numbers -/

/-- Digits with single low lines between them, without the low lines, and the rest. -/
def digitRun (isDigit : Char → Bool) : List Char → List Char × List Char
  | [] => ([], [])
  | c :: s =>
    if isDigit c then
      match s with
      | '_' :: d :: s' =>
        if isDigit d then
          let (digits, rest) := digitRun isDigit (d :: s')
          (c :: digits, rest)
        else ([c], s)
      | s =>
        let (digits, rest) := digitRun isDigit s
        (c :: digits, rest)
    else ([], c :: s)

/-- The digits of an exponent with its sign, and the rest. -/
def exponentRun? (s : List Char) : Option ((Bool × List Char) × List Char) :=
  match s with
  | c :: s =>
    if c = 'e' || c = 'E' then
      let (negative, s) : Bool × List Char := match s with
        | '-' :: s => (true, s)
        | '+' :: s => (false, s)
        | s => (false, s)
      let (digits, rest) := digitRun Text.isDecimalDigit s
      if digits.isEmpty then none else some ((negative, digits), rest)
    else none
  | [] => none

/-- A decimal number: all its digits, and the exponent of ten for the last of them. -/
structure DecimalLiteral where
  digits : List Char
  exponent : Int
deriving DecidableEq, Repr, Inhabited

/-- The decimal number that a text starts with, which has a fraction or an exponent, and
the rest. -/
def decimalLiteral? (s : List Char) : Option (DecimalLiteral × List Char) :=
  let (whole, s) := digitRun Text.isDecimalDigit s
  if whole.isEmpty then none
  else
    let (fraction, s) : List Char × List Char := match s with
      | '.' :: rest =>
        let (digits, rest) := digitRun Text.isDecimalDigit rest
        if digits.isEmpty then ([], s) else (digits, rest)
      | s => ([], s)
    match exponentRun? s with
    | some ((negative, exponent), rest) =>
      let e : Int := Text.digitsValue exponent
      some (⟨whole ++ fraction, (if negative then -e else e) - fraction.length⟩, rest)
    | none => if fraction.isEmpty then none else some (⟨whole ++ fraction, -fraction.length⟩, s)

/-- Digits of a base behind its mark, of which low lines may stand before each, and the
rest. -/
def markedDigits (isDigit : Char → Bool) : List Char → List Char × List Char
  | '_' :: d :: s =>
    if isDigit d then
      let (digits, rest) := markedDigits isDigit s
      (d :: digits, rest)
    else ([], '_' :: d :: s)
  | d :: s =>
    if isDigit d then
      let (digits, rest) := markedDigits isDigit s
      (d :: digits, rest)
    else ([], d :: s)
  | [] => ([], [])

/-- The value of a digit in any base. -/
def digitWorth (c : Char) : Nat :=
  ((Text.decimalValue? c).or (Text.hexDigit? c)).getD 0

/-- The number that digits to a base spell. -/
def baseValue (base : Nat) (digits : List Char) : Nat :=
  digits.foldl (fun n d => base * n + digitWorth d) 0

/-- The whole number that a text starts with, by the base and the digits, and the rest. -/
def integerLiteral? (s : List Char) : Option ((Nat × List Char) × List Char) :=
  let marked (base : Nat) (isDigit : Char → Bool) (s : List Char) :
      Option ((Nat × List Char) × List Char) :=
    let (digits, rest) := markedDigits isDigit s
    if digits.isEmpty then none else some ((base, digits), rest)
  let plain : Option ((Nat × List Char) × List Char) := match s with
    | '0' :: s =>
      let (digits, rest) := markedDigits (· = '0') s
      some ((10, '0' :: digits), rest)
    | c :: s =>
      if '1' ≤ c && c ≤ '9' then
        let (digits, rest) := markedDigits Text.isDecimalDigit s
        some ((10, c :: digits), rest)
      else none
    | [] => none
  match s with
  | '0' :: m :: body =>
    if m = 'b' || m = 'B' then (marked 2 (fun c => c = '0' || c = '1') body).or plain
    else if m = 'o' || m = 'O' then (marked 8 (fun c => '0' ≤ c && c ≤ '7') body).or plain
    else if m = 'x' || m = 'X' then
      (marked 16 (fun c => Text.isDecimalDigit c || (Text.hexDigit? c).isSome) body).or plain
    else plain
  | _ => plain

end Tweaks.Banner
