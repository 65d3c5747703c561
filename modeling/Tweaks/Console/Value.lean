import Tweaks.Banner.Literal
import Tweaks.Text.Letter

/-!
# Values written out

What a tag hands on has to be a value that is written out: a number, a text, bytes, one of the
words for true, false and nothing, three dots, or a collection of such values in brackets.  What
belongs to a set, and the keys of a mapping, must not be collections that can change.
-/

namespace Tweaks.Console.Value

/-- What matters about a value for what it may be part of. -/
inductive Kind where
  /-- A number that may have an imaginary part added to it. -/
  | real (signed : Bool)
  /-- A number that may be added to a real one. -/
  | imaginary (signed : Bool)
  /-- Any other value that cannot change. -/
  | fixed
  /-- A collection that can change. -/
  | changing
deriving DecidableEq, Repr

/-- Whether values of a kind may belong to a set. -/
def Kind.isStable (k : Kind) : Bool := k != .changing

/-! ## Blanks -/

/-- What is behind blanks, comments and joined lines.  Within brackets a break is a blank. -/
def skipFrom (inside comment : Bool) : List Char → List Char
  | [] => []
  | c :: s =>
    if c = '\n' then if inside then skipFrom inside false s else c :: s
    else if comment || c = ' ' || c = '\t' || c = '\x0c' then skipFrom inside comment s
    else if c = '#' then skipFrom inside true s
    else
      match c, s with
      | '\\', '\n' :: s => skipFrom inside false s
      | c, s => c :: s

/-- What is behind blanks. -/
def skip (inside : Bool) (s : List Char) : List Char := skipFrom inside false s

/-! ## Texts -/

/-- The text up to the quotes that end it, and what is behind them. -/
def body? (mark : Char) (long : Bool) : List Char → Option (List Char × List Char)
  | [] => none
  | '\\' :: [] => none
  | '\\' :: c :: s => (body? mark long s).map fun (t, rest) => ('\\' :: c :: t, rest)
  | c :: s =>
    if c = mark && (!long || [mark, mark].isPrefixOf s) then
      some ([], if long then s.drop 2 else s)
    else if c = '\n' && !long then none
    else (body? mark long s).map fun (t, rest) => (c :: t, rest)

/-- Whether a text between quotes spells bytes. -/
def spellsBytes : List Char → Bool
  | [] => true
  | '\\' :: 'x' :: a :: b :: s =>
    (Text.hexDigit? a).isSome && (Text.hexDigit? b).isSome && spellsBytes s
  | '\\' :: 'x' :: _ => false
  | '\\' :: _ :: s => spellsBytes s
  | c :: s => c.toNat < 128 && spellsBytes s

/-- A text in quotes with the letters before them: whether it stands for bytes, and what is
behind it. -/
def quoted? (s : List Char) : Option (Bool × List Char) := do
  let letters := s.takeWhile Char.isAlpha
  let marks := (letters.map Char.toLower).mergeSort
  let (mark, rest) ← match s.drop letters.length with
    | c :: rest => if c = '\x27' || c = '\x22' then some (c, rest) else none
    | [] => none
  if !(["", "b", "r", "u", "br"].contains (String.ofList marks)) then none
  let long := [mark, mark].isPrefixOf rest
  let (body, rest) ← body? mark long (if long then rest.drop 2 else rest)
  let bytes := marks.contains 'b'
  let sound :=
    if bytes then body.all (·.toNat < 128) && (marks.contains 'r' || spellsBytes body)
    else marks.contains 'r' || (Banner.unescaped? (body.length + 1) body).isSome
  if sound then some (bytes, rest) else none

/-- Texts in quotes, one after the other, and what is behind them.  All stand for bytes, or
none does. -/
def texts? (inside : Bool) : (fuel : Nat) → List Char → Option (Bool × List Char)
  | 0, _ => none
  | fuel + 1, s => do
    let (bytes, rest) ← quoted? s
    match texts? inside fuel (skip inside rest) with
    | some (bytes', rest) => if bytes = bytes' then some (bytes, rest) else none
    | none => some (bytes, rest)

/-! ## Numbers -/

/-- What is behind an exponent, if there is one. -/
def dropExponent (s : List Char) : List Char :=
  match s with
  | c :: t =>
    if c = 'e' || c = 'E' then
      let t := match t with
        | '+' :: t => t
        | '-' :: t => t
        | t => t
      match Banner.digitRun Char.isDigit t with
      | ([], _) => s
      | (_, rest) => rest
    else s
  | [] => []

/-- A number with the digits of a base, and what is behind it. -/
def basedNumber? (s : List Char) : Option (List Char) :=
  let isDigit? : Option (Char → Bool) := match s.take 2 |>.map Char.toLower with
    | ['0', 'x'] => some fun c => (Text.hexDigit? c).isSome
    | ['0', 'o'] => some fun c => '0' ≤ c && c ≤ '7'
    | ['0', 'b'] => some fun c => c = '0' || c = '1'
    | _ => none
  isDigit?.bind fun isDigit =>
    match Banner.markedDigits isDigit (s.drop 2) with
    | ([], _) => none
    | (_, rest) => some rest

/-- A number, and what is behind it. -/
def number? (s : List Char) : Option (Kind × List Char) :=
  match basedNumber? s with
  | some rest => some (.real false, rest)
  | none =>
    let (whole, behind) := Banner.digitRun Char.isDigit s
    let (fraction, rest) := match behind with
      | '.' :: t => Banner.digitRun Char.isDigit t
      | t => ([], t)
    let rest := dropExponent rest
    if whole.isEmpty && fraction.isEmpty then none
    else
      match rest with
      | 'j' :: rest => some (.imaginary false, rest)
      | 'J' :: rest => some (.imaginary false, rest)
      | rest =>
        let isWhole := rest.length = behind.length
        if isWhole && whole.head? = some '0' && whole.any (· ≠ '0') then none
        else some (.real false, rest)

/-! ## Values -/

/-- What the members of a tuple make it.  A single one in brackets stands for itself. -/
def tuple (members : List (Kind × Bool)) (comma : Bool) : Option Kind :=
  match members, comma with
  | [(k, isKey)], false => if isKey then none else some k
  | members, _ =>
    if members.any Prod.snd then none
    else some (if members.all (·.1.isStable) then .fixed else .changing)

/-- Members in curly brackets make a set or a mapping, all in the same way. -/
def curly (members : List (Kind × Bool)) : Option Kind :=
  if members.all (·.1.isStable) && (members.all Prod.snd || !members.any Prod.snd) then
    some .changing
  else none

/-- What a value becomes behind a sign. -/
def signed? : Kind × List Char → Option (Kind × List Char)
  | (.real false, rest) => some (.real true, rest)
  | (.imaginary false, rest) => some (.imaginary true, rest)
  | _ => none

mutual

/-- A value without what may be added to it, and what is behind it. -/
def plain? (inside : Bool) : (fuel : Nat) → List Char → Option (Kind × List Char)
  | 0, _ => none
  | fuel + 1, s =>
    match texts? inside (s.length + 1) s with
    | some (_, rest) => some (.fixed, rest)
    | none =>
      match s with
      | '(' :: s => do
        let (members, comma, rest) ← members? true ')' fuel s
        return (← tuple members comma, rest)
      | '[' :: s => do
        let (members, _, rest) ← members? true ']' fuel s
        if members.any Prod.snd then none else some (.changing, rest)
      | '{' :: s => do
        let (members, _, rest) ← members? true '}' fuel s
        return (← curly members, rest)
      | '.' :: '.' :: '.' :: s => some (.fixed, s)
      | s =>
        let word := s.takeWhile Text.isWordChar
        let behind := s.drop word.length
        if ["True", "False", "None"].contains (String.ofList word) then some (.fixed, behind)
        else if word = "set".toList then
          match skip inside behind with
          | '(' :: s =>
            match skip true s with
            | ')' :: s => some (.changing, s)
            | _ => none
          | _ => none
        else number? s

/-- A value, and what is behind it. -/
def value? (inside : Bool) : (fuel : Nat) → List Char → Option (Kind × List Char)
  | 0, _ => none
  | fuel + 1, s => do
    let (kind, rest) ← match s with
      | '+' :: s => (plain? inside fuel (skip inside s)).bind signed?
      | '-' :: s => (plain? inside fuel (skip inside s)).bind signed?
      | s => plain? inside fuel s
    let added? : Option (List Char) := match skip inside rest with
      | '+' :: s => some (skip inside s)
      | '-' :: s => some (skip inside s)
      | _ => none
    match kind, added? with
    | .real _, some s =>
      match plain? inside fuel s with
      | some (.imaginary false, rest) => some (.fixed, rest)
      | _ => none
    | kind, _ => some (kind, rest)

/-- Values with commas between them up to a bracket, whether there is a comma behind the last
one, and what is behind the bracket.  Of keys it is said that they have values. -/
def members? (inside : Bool) (close : Char) :
    (fuel : Nat) → List Char → Option (List (Kind × Bool) × Bool × List Char)
  | 0, _ => none
  | fuel + 1, s => do
    match skip inside s with
    | [] => none
    | c :: s =>
      if c = close then some ([], false, s)
      else
        let (kind, rest) ← value? inside fuel (c :: s)
        let (isKey, rest) ← match skip inside rest with
          | ':' :: s => (value? inside fuel (skip inside s)).map fun (_, rest) => (true, rest)
          | s => some (false, s)
        match skip inside rest with
        | ',' :: rest =>
          let (members, comma, rest) ← members? inside close fuel rest
          return ((kind, isKey) :: members, members.isEmpty || comma, rest)
        | c :: rest => if c = close then some ([(kind, isKey)], false, rest) else none
        | [] => none

end

/-- Whether a text is a value that is written out, or several with commas between them. -/
def isWritten (s : List Char) : Bool :=
  match members? false '\n' (3 * s.length + 3) (s ++ ['\n']) with
  | some (members, comma, []) => !members.isEmpty && (tuple members comma).isSome
  | _ => false

end Tweaks.Console.Value
