import Tweaks.Text.Letter
import Tweaks.Text.Replace
import Tweaks.Text.Split

/-!
# Links in running text

Finds the addresses among the words of a text and makes links of them.  A word is an
address if it has the form of one once brackets and the end of a sentence around it are
set aside; brackets that belong to the address stay with it.
-/

namespace Tweaks.Text

/-! ## The form of addresses -/

/-- Whether a character stands in the name of a place. -/
def isPlaceChar (c : Char) : Bool :=
  isWordChar c || c = '%' || c = '-'

/-- Whether a text is the country or kind of a place. -/
def isPlaceEnd (s : List Char) : Bool :=
  (2 ≤ s.length && s.length ≤ 63 && s.all Char.isAlpha) ||
    (match dropExpected? "xn--".toList (s.map Char.toLower) with
      | some rest => 2 ≤ rest.length && rest.length ≤ 59 &&
          rest.all fun c => isWordChar c || c = '%'
      | none => false)

/-- The name of a place between its points. -/
def placeLabels (s : List Char) : List (List Char) :=
  splitOn ['.'] (s.length + 1) s

/-- Whether a text is a name of a place behind a scheme: labels, and a country or kind. -/
def isPlace (s : List Char) : Bool :=
  match (placeLabels s).reverse with
  | [] => false
  | last :: labels => isPlaceEnd last && labels.all fun l => !l.isEmpty && l.all isPlaceChar

/-- The kinds of places that need no scheme. -/
def commonKinds : List String :=
  ["com", "net", "int", "edu", "gov", "org", "info", "mil"]

/-- Whether a text is a name of a place without a scheme. -/
def isBarePlace (s : List Char) : Bool :=
  match (placeLabels s).reverse with
  | [] => false
  | last :: labels =>
    commonKinds.contains (String.ofList (last.map Char.toLower)) && !labels.isEmpty &&
      labels.all fun l => 2 ≤ l.length && l.length ≤ 63 && l.all isPlaceChar

/-- Whether a text is four numbers of up to three digits. -/
def isFourNumbers (s : List Char) : Bool :=
  let labels := placeLabels s
  labels.length = 4 && labels.all fun l =>
    1 ≤ l.length && l.length ≤ 3 && l.all isDecimalDigit

/-- Whether a text is an address of eight numbers in square brackets. -/
def isEightNumbers (s : List Char) : Bool :=
  match s, s.getLast? with
  | '[' :: _, some ']' =>
    let parts := splitOn [':'] s.length s.tail.dropLast
    3 ≤ parts.length && parts.length ≤ 9 && parts.all fun p =>
      p.length ≤ 4 && p.all fun c => isDecimalDigit c || ('a' ≤ c.toLower && c.toLower ≤ 'f')
  | _, _ => false

/-- An address without its number behind a colon and what follows. -/
def withoutPath (s : List Char) : List Char :=
  let place := s.takeWhile fun c => c ≠ '/' && c ≠ '?' && c ≠ '#'
  let digits := place.reverse.takeWhile isDecimalDigit
  let before := place.reverse.drop digits.length
  if 1 ≤ digits.length && digits.length ≤ 5 && before.head? = some ':' then
    before.tail.reverse
  else place

/-- Whether a text is an address. -/
def isAddress (s : List Char) : Bool :=
  let small := s.map Char.toLower
  let behindScheme :=
    (dropExpected? "https://".toList small).or (dropExpected? "http://".toList small)
  let place := withoutPath s
  match behindScheme with
  | some rest =>
    let place := withoutPath (s.drop (s.length - rest.length))
    isPlace place || isFourNumbers place || isEightNumbers place
  | none =>
    isBarePlace place ||
      (match dropExpected? "www.".toList (place.map Char.toLower) with
        | some rest => isPlace (place.drop (place.length - rest.length))
        | none => false)

/-- Whether a text is an address of mail. -/
def isMailAddress (s : List Char) : Bool :=
  let place := (s.reverse.takeWhile (· ≠ '@')).reverse
  let name := s.take (s.length - place.length - 1)
  s.contains '@' && !name.isEmpty && !name.any isBlank &&
    (match (placeLabels place).reverse with
      | last :: first :: more =>
        !last.isEmpty && last.all isWordChar && (first :: more).getLast?.any (fun l =>
          l.head?.any isWordChar) &&
          (first :: more).all fun l => l.all fun c => isWordChar c || c = '-'
      | _ => false)

/-! ## Words -/

/-- The runs of blanks and of other characters of a text. -/
def blankPieces : (fuel : Nat) → List Char → List (List Char)
  | 0, s => [s]
  | _, [] => []
  | fuel + 1, c :: s =>
    let same (d : Char) : Bool := isBlank d = isBlank c
    (c :: s.takeWhile same) :: blankPieces fuel (s.dropWhile same)

/-- The brackets that may stand before an address. -/
def openingBrackets : List (List Char) :=
  ["(".toList, "<".toList, "&lt;".toList]

/-- What may stand behind an address. -/
def closingSigns : List (List Char) :=
  [")".toList, ">".toList, ".".toList, ",".toList, "\n".toList, "&gt;".toList]

/-- What a text starts with as far as it is made of some texts, and the rest. -/
def splitStart (texts : List (List Char)) : (fuel : Nat) → List Char → List Char × List Char
  | 0, s => ([], s)
  | fuel + 1, s =>
    match texts.find? fun t => !t.isEmpty && t.isPrefixOf s with
    | some t =>
      let (start, rest) := splitStart texts fuel (s.drop t.length)
      (t ++ start, rest)
    | none => ([], s)

/-- Moves what closes a bracket from behind an address to it, as often as the bracket is
opened in it. -/
def balance (closing : List Char) : (count : Nat) → (middle behind : List Char) →
    List Char × List Char
  | 0, middle, behind => (middle, behind)
  | count + 1, middle, behind =>
    match splitAt? closing behind with
    | some (before, rest) => balance closing count (middle ++ before ++ closing) rest
    | none => (middle, behind)

/-- The pairs of brackets that belong to an address if they are balanced in it. -/
def bracketPairs : List (List Char × List Char) :=
  [("(".toList, ")".toList), ("<".toList, ">".toList), ("&lt;".toList, "&gt;".toList)]

/-- A word: what stands before its middle, the middle, and what is behind it. -/
def wordParts (word : List Char) : List Char × List Char × List Char :=
  let (before, rest) := splitStart openingBrackets (word.length + 1) word
  let (behind, middle) := splitStart (closingSigns.map List.reverse) (rest.length + 1) rest.reverse
  let (middle, behind) := bracketPairs.foldl (fun (middle, behind) (opening, closing) =>
    let opened := countOf opening middle
    if opened ≤ countOf closing middle then (middle, behind)
    else balance closing (min opened (countOf closing behind)) middle behind)
    (middle.reverse, behind.reverse)
  (before, middle, behind)

/-- How links are made: how many characters of an address are shown, what stands in the
links besides their addresses, and other starts of addresses. -/
structure LinkStyle where
  shown : Option Int
  extra : List Char
  schemes : List (List Char)
deriving DecidableEq, Repr, Inhabited

/-- An address as it is shown. -/
def LinkStyle.show (style : LinkStyle) (s : List Char) : List Char :=
  match style.shown with
  | none => s
  | some n =>
    if n < s.length then
      (if n < 0 then s.take (s.length + n).toNat else s.take n.toNat) ++ "...".toList
    else s

/-- A link to an address. -/
def link (address extra shown : List Char) : List Char :=
  "<a href=\x22".toList ++ address ++ '\x22' :: extra ++ '>' :: shown ++ "</a>".toList

/-- What stands for the middle of a word: a link if it is an address. -/
def linked (style : LinkStyle) (s : List Char) : List Char :=
  if isAddress s then
    let isWhole := "https://".toList.isPrefixOf s || "http://".toList.isPrefixOf s
    link (if isWhole then s else "https://".toList ++ s) style.extra (style.show s)
  else if "mailto:".toList.isPrefixOf s && isMailAddress (s.drop 7) then
    link s [] (s.drop 7)
  else if s.contains '@' && !"www.".toList.isPrefixOf s && s.head? ≠ some '@' &&
      !s.contains ':' && isMailAddress s then
    link ("mailto:".toList ++ s) [] s
  else
    style.schemes.foldl (fun s scheme =>
      if s ≠ scheme && scheme.isPrefixOf s then link s style.extra s else s) s

/-- A text with links for its addresses. -/
def withLinks (style : LinkStyle) (s : List Char) : List Char :=
  (blankPieces (s.length + 1) s).flatMap fun word =>
    let (before, middle, behind) := wordParts word
    before ++ linked style middle ++ behind

end Tweaks.Text
