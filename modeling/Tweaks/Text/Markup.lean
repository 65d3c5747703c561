import Tweaks.Text.Letter
import Tweaks.Text.Split

/-!
# Marked-up text as plain text

The plain text of marked-up text: tags and remarks are left out, blanks are run together,
and characters that are spelled by their numbers or names are put in.
-/

namespace Tweaks.Text

/-! ## Tags -/

/-- A text without what stands from one text to the next occurrence of another, as long as
both are found. -/
def withoutSpans (opening closing : List Char) : (fuel : Nat) → List Char → List Char
  | 0, s => s
  | fuel + 1, s =>
    match splitAt? opening s with
    | none => s
    | some (before, _) =>
      match splitAt? closing (s.drop before.length) with
      | none => s
      | some (_, rest) => withoutSpans opening closing fuel (before ++ rest)

/-- A text without remarks and tags, its words one blank apart. -/
def withoutTags (s : List Char) : List Char :=
  let s := withoutSpans "<!--".toList "-->".toList s.length s
  joinWith [' '] (words (withoutSpans ['<'] ['>'] s.length s))

/-! ## Names of characters -/

/-- The characters that have a name in marked-up text. -/
def characterNames : List (String × Nat) := [
  ("amp", 0x26), ("AMP", 0x26), ("lt", 0x3c), ("LT", 0x3c), ("gt", 0x3e), ("GT", 0x3e),
  ("quot", 0x22), ("QUOT", 0x22), ("apos", 0x27), ("nbsp", 0xa0), ("iexcl", 0xa1),
  ("cent", 0xa2), ("pound", 0xa3), ("curren", 0xa4), ("yen", 0xa5), ("brvbar", 0xa6),
  ("sect", 0xa7), ("uml", 0xa8), ("copy", 0xa9), ("COPY", 0xa9), ("ordf", 0xaa),
  ("laquo", 0xab), ("not", 0xac), ("shy", 0xad), ("reg", 0xae), ("REG", 0xae), ("macr", 0xaf),
  ("deg", 0xb0), ("plusmn", 0xb1), ("sup2", 0xb2), ("sup3", 0xb3), ("acute", 0xb4),
  ("micro", 0xb5), ("para", 0xb6), ("middot", 0xb7), ("cedil", 0xb8), ("sup1", 0xb9),
  ("ordm", 0xba), ("raquo", 0xbb), ("frac14", 0xbc), ("frac12", 0xbd), ("frac34", 0xbe),
  ("iquest", 0xbf), ("Agrave", 0xc0), ("Aacute", 0xc1), ("Acirc", 0xc2), ("Atilde", 0xc3),
  ("Auml", 0xc4), ("Aring", 0xc5), ("AElig", 0xc6), ("Ccedil", 0xc7), ("Egrave", 0xc8),
  ("Eacute", 0xc9), ("Ecirc", 0xca), ("Euml", 0xcb), ("Igrave", 0xcc), ("Iacute", 0xcd),
  ("Icirc", 0xce), ("Iuml", 0xcf), ("ETH", 0xd0), ("Ntilde", 0xd1), ("Ograve", 0xd2),
  ("Oacute", 0xd3), ("Ocirc", 0xd4), ("Otilde", 0xd5), ("Ouml", 0xd6), ("times", 0xd7),
  ("Oslash", 0xd8), ("Ugrave", 0xd9), ("Uacute", 0xda), ("Ucirc", 0xdb), ("Uuml", 0xdc),
  ("Yacute", 0xdd), ("THORN", 0xde), ("szlig", 0xdf), ("agrave", 0xe0), ("aacute", 0xe1),
  ("acirc", 0xe2), ("atilde", 0xe3), ("auml", 0xe4), ("aring", 0xe5), ("aelig", 0xe6),
  ("ccedil", 0xe7), ("egrave", 0xe8), ("eacute", 0xe9), ("ecirc", 0xea), ("euml", 0xeb),
  ("igrave", 0xec), ("iacute", 0xed), ("icirc", 0xee), ("iuml", 0xef), ("eth", 0xf0),
  ("ntilde", 0xf1), ("ograve", 0xf2), ("oacute", 0xf3), ("ocirc", 0xf4), ("otilde", 0xf5),
  ("ouml", 0xf6), ("divide", 0xf7), ("oslash", 0xf8), ("ugrave", 0xf9), ("uacute", 0xfa),
  ("ucirc", 0xfb), ("uuml", 0xfc), ("yacute", 0xfd), ("thorn", 0xfe), ("yuml", 0xff),
  ("ndash", 0x2013), ("mdash", 0x2014), ("lsquo", 0x2018), ("rsquo", 0x2019), ("ldquo", 0x201c),
  ("rdquo", 0x201d), ("bull", 0x2022), ("hellip", 0x2026), ("euro", 0x20ac), ("trade", 0x2122),
  ("larr", 0x2190), ("uarr", 0x2191), ("rarr", 0x2192), ("darr", 0x2193), ("hearts", 0x2665)]

/-- The characters that a number stands for, be it one that is none. -/
def characterOfNumber (n : Nat) : List Char :=
  if n = 0 || (0xd800 ≤ n && n ≤ 0xdfff) || 0x10ffff < n then ['\ufffd']
  else if n = 0x0d then ['\r']
  else if n = 0x80 then ['\u20ac']
  else if n < 0x20 && !([0x09, 0x0a, 0x0c].contains n) then []
  else [Char.ofNat n]

/-- The value of a hexadecimal digit. -/
def hexDigit? (c : Char) : Option Nat :=
  if c.isDigit then some (c.toNat - 48)
  else if 'a' ≤ c ∧ c ≤ 'f' then some (c.toNat - 87)
  else if 'A' ≤ c ∧ c ≤ 'F' then some (c.toNat - 55)
  else none

/-- The number that hexadecimal digits spell. -/
def hexValue (digits : List Char) : Nat :=
  digits.foldl (fun n d => 16 * n + (hexDigit? d).getD 0) 0

/-- The text behind digits, and behind the semicolon that may end them. -/
def behindDigits (s : List Char) : List Char :=
  match s with
  | ';' :: s => s
  | s => s

/-- What a name stands for: all of it, or its longest start that stands for something
without a semicolon. -/
def namedCharacter? (name : List Char) (ended : Bool) : Option (Char × List Char) :=
  match (if ended then characterNames.lookup (String.ofList name) else none) with
  | some n => some (Char.ofNat n, [])
  | none =>
    let short := (List.range (name.length + 1)).reverse.findSome? fun k =>
      match characterNames.lookup (String.ofList (name.take k)) with
      | some n => if n < 0x100 && n ≠ 0x27 then some (Char.ofNat n, name.drop k) else none
      | none => none
    short.map fun (c, rest) => (c, rest ++ (if ended then [';'] else []))

/-- A text with the characters put in that are spelled by their numbers or names. -/
def withCharacters : (fuel : Nat) → List Char → List Char
  | 0, s => s
  | _, [] => []
  | fuel + 1, '&' :: '#' :: s =>
    let (isHex, body) : Bool × List Char := match s with
      | c :: rest => if c = 'x' || c = 'X' then (true, rest) else (false, s)
      | [] => (false, [])
    let digits := body.takeWhile fun c => if isHex then (hexDigit? c).isSome else c.isDigit
    if digits.isEmpty then '&' :: '#' :: withCharacters fuel s
    else
      characterOfNumber (if isHex then hexValue digits else digitsValue digits) ++
        withCharacters fuel (behindDigits (body.drop digits.length))
  | fuel + 1, '&' :: s =>
    let ends (c : Char) := isBlank c || c = '<' || c = '&' || c = '#' || c = ';'
    let name := (s.takeWhile fun c => !ends c).take 32
    let ended := s[name.length]? = some ';'
    let rest := s.drop (name.length + if ended then 1 else 0)
    match namedCharacter? name ended with
    | some (c, kept) => c :: kept ++ withCharacters fuel rest
    | none => '&' :: name ++ (if ended then [';'] else []) ++ withCharacters fuel rest
  | fuel + 1, c :: s => c :: withCharacters fuel s

/-- The plain text of marked-up text. -/
def plainText (s : List Char) : List Char :=
  let s := withoutTags s
  withCharacters (s.length + 1) s

end Tweaks.Text
