import Tweaks.Yaml.Cursor

/-!
# Kinds of YAML values

The kinds that tags name, and the kind of a scalar without a tag, which its text
tells: words for null and truth values, numbers in several notations, dates, and
the marks of merged and default entries.
-/

namespace Tweaks.Yaml

/-- A kind of values. -/
inductive Kind where
  | null
  | bool
  | int
  | float
  | binary
  | timestamp
  | omap
  | pairs
  | set
  | str
  | seq
  | map
  | merge
  | default
  /-- A kind that is not known. -/
  | other
deriving DecidableEq, Repr, Inhabited

namespace Kind

/-- What the tags of the known kinds start with. -/
def tagRoot : List Char := "tag:yaml.org,2002:".toList

/-- The known kinds, by the rest of their tags. -/
def byName : List (List Char × Kind) :=
  [("null".toList, null), ("bool".toList, bool), ("int".toList, int), ("float".toList, float),
    ("binary".toList, binary), ("timestamp".toList, timestamp), ("omap".toList, omap),
    ("pairs".toList, pairs), ("set".toList, set), ("str".toList, str), ("seq".toList, seq),
    ("map".toList, map), ("merge".toList, merge), ("value".toList, default)]

/-- The kind that a tag names. -/
def ofTag (tag : List Char) : Kind :=
  if tagRoot.isPrefixOf tag then (byName.lookup (tag.drop tagRoot.length)).getD other
  else other

/-! ## Shapes of scalars -/

/-- The words for null, which an empty text stands for as well. -/
def nullWords : List String := ["~", "null", "Null", "NULL"]

/-- The words for truth and falsehood, in small letters. -/
def boolWords : List (String × Bool) :=
  [("yes", true), ("no", false), ("true", true), ("false", false), ("on", true),
    ("off", false)]

/-- The ways in which a word may be written: small, with a capital, or large. -/
def casings (word : String) : List String :=
  [word, word.capitalize, word.toUpper]

/-- Whether a text is not empty and all its characters pass a test. -/
def isRunOf (p : Char → Bool) (s : List Char) : Bool :=
  !s.isEmpty && s.all p

/-- Digits and underscores. -/
def isDigitChar (c : Char) : Bool :=
  c.isDigit || c = '_'

/-- A text without the sign it may start with. -/
def unsigned (s : List Char) : List Char :=
  match s with
  | '+' :: rest => rest
  | '-' :: rest => rest
  | _ => s

/-- Whether a text is a minute or second between colons: one or two digits, below
sixty. -/
def isSixtieth (s : List Char) : Bool :=
  match s with
  | [d] => d.isDigit
  | [t, d] => '0' ≤ t && t ≤ '5' && d.isDigit
  | _ => false

/-- A text cut at its colons. -/
def splitColons : List Char → List (List Char)
  | [] => [[]]
  | c :: s =>
    if c = ':' then [] :: splitColons s
    else match splitColons s with
      | [] => [[c]]
      | part :: parts => (c :: part) :: parts

/-- Whether a text starts with a digit, and digits and underscores follow. -/
def isDigits (s : List Char) : Bool :=
  match s with
  | d :: rest => d.isDigit && rest.all isDigitChar
  | [] => false

/-- Whether a text is an integer: binary, octal, decimal, hexadecimal, or parts
of sixty between colons. -/
def isInt (s : List Char) : Bool :=
  match unsigned s with
  | ['0'] => true
  | '0' :: 'b' :: rest => isRunOf (fun c => c = '0' || c = '1' || c = '_') rest
  | '0' :: 'x' :: rest => isRunOf (fun c => (hexValue? c).isSome || c = '_') rest
  | '0' :: rest => rest.all fun c => ('0' ≤ c && c ≤ '7') || c = '_'
  | rest =>
    match splitColons rest with
    | [digits] => isDigits digits
    | digits :: parts => isDigits digits && parts.all isSixtieth
    | [] => false

/-- Whether a text is an exponent, or nothing. -/
def isExponent (s : List Char) : Bool :=
  match s with
  | [] => true
  | e :: sign :: digits =>
    (e = 'e' || e = 'E') && (sign = '+' || sign = '-') && isRunOf Char.isDigit digits
  | _ => false

/-- Whether a text is what may follow a number's point: digits, and an
exponent. -/
def isFraction (s : List Char) : Bool :=
  isExponent (s.dropWhile isDigitChar)

/-- Whether a text is a number with a point, parts of sixty with one, or a word
for infinity or for what is no number. -/
def isFloat (s : List Char) : Bool :=
  let body := unsigned s
  let whole := body.takeWhile (· ≠ '.')
  match body.dropWhile (· ≠ '.') with
  | [] => false
  | _ :: fraction =>
    if whole.isEmpty then
      [".inf", ".Inf", ".INF"].contains (String.ofList body) ||
        (body.length = s.length &&
          ([".nan", ".NaN", ".NAN"].contains (String.ofList s) ||
            ((fraction.head?.any Char.isDigit) && isFraction fraction)))
    else
      match splitColons whole with
      | [digits] => isDigits digits && isFraction fraction
      | digits :: parts =>
        isDigits digits && parts.all isSixtieth && fraction.all isDigitChar
      | [] => false

/-- Reads between `least` and `most` digits, as many as there are. -/
def takeDigits? (least most : Nat) (s : List Char) : Option (Nat × List Char) :=
  let digits := (s.take most).takeWhile Char.isDigit
  if digits.length < least then none
  else some (digits.foldl (fun n d => 10 * n + (d.toNat - 48)) 0, s.drop digits.length)

/-- What follows a given character at the start of a text. -/
def after? (mark : Char) (s : List Char) : Option (List Char) :=
  match s with
  | [] => none
  | c :: rest => if c = mark then some rest else none

/-- Spaces and tabs. -/
def isSpaceOrTab (c : Char) : Bool :=
  c = ' ' || c = '\t'

/-- The time of a day, as it is written. -/
structure ClockText where
  hour : Nat
  minute : Nat
  second : Nat
  fraction : List Char
  /-- The sign, hours and minutes of the offset; none for universal time. -/
  zone : Option (Option (Bool × Nat × Nat))
deriving DecidableEq, Repr

/-- A date, as it is written, and the time that may follow it. -/
structure DateText where
  year : Nat
  month : Nat
  day : Nat
  clock : Option ClockText
deriving DecidableEq, Repr

/-- Reads a clock's offset from universal time, to the end of the text. -/
def zone? (s : List Char) : Option (Option (Option (Bool × Nat × Nat))) :=
  match s with
  | [] => some none
  | _ =>
    match s.dropWhile isSpaceOrTab with
    | ['Z'] => some (some none)
    | sign :: rest =>
      if sign = '+' || sign = '-' then do
        let (hours, rest) ← takeDigits? 1 2 rest
        match rest with
        | [] => return some (some (sign = '-', hours, 0))
        | _ => do
          let rest ← after? ':' rest
          let (minutes, rest) ← takeDigits? 2 2 rest
          if rest.isEmpty then return some (some (sign = '-', hours, minutes)) else none
      else none
    | [] => none

/-- Reads a time of a day, to the end of the text. -/
def clock? (s : List Char) : Option ClockText := do
  let (hour, s) ← takeDigits? 1 2 s
  let (minute, s) ← (after? ':' s).bind (takeDigits? 2 2)
  let (second, s) ← (after? ':' s).bind (takeDigits? 2 2)
  let (fraction, s) := match s with
    | '.' :: rest => (rest.takeWhile Char.isDigit, rest.dropWhile Char.isDigit)
    | _ => ([], s)
  let zone ← zone? s
  return ⟨hour, minute, second, fraction, zone⟩

/-- What separates a date from a time: a T, or blanks. -/
def afterDate? (s : List Char) : Option (List Char) :=
  match s with
  | c :: rest =>
    if c = 'T' || c = 't' then some rest
    else if isSpaceOrTab c then some (rest.dropWhile isSpaceOrTab)
    else none
  | [] => none

/-- Reads a date, with or without a time, to the end of the text. -/
def date? (s : List Char) : Option DateText := do
  let (year, s) ← takeDigits? 4 4 s
  let (month, s) ← (after? '-' s).bind (takeDigits? 1 2)
  let (day, s) ← (after? '-' s).bind (takeDigits? 1 2)
  match s with
  | [] => return ⟨year, month, day, none⟩
  | _ => do
    let clock ← (afterDate? s).bind clock?
    return ⟨year, month, day, some clock⟩

/-- Whether a text is a date.  Without a time, month and day have two digits. -/
def isTimestamp (s : List Char) : Bool :=
  match date? s with
  | some d => d.clock.isSome || s.length = 10
  | none => false

/-- The kind of a scalar without a tag.  A line feed at its end does not count. -/
def ofPlain (text : List Char) : Kind :=
  let s := if text.getLast? = some '\n' then text.dropLast else text
  let word := String.ofList s
  if boolWords.any fun (w, _) => (casings w).contains word then bool
  else if isFloat s then float
  else if isInt s then int
  else if word = "<<" then merge
  else if text.isEmpty || nullWords.contains word then null
  else if isTimestamp s then timestamp
  else if word = "=" then default
  else if ["!", "&", "*"].contains word then other
  else str

end Kind

end Tweaks.Yaml
