import Tweaks.Text.Letter
import Tweaks.Text.Split

/-!
# Wrapping words

Cuts a text into lines of no more than a number of characters.  A line ends between words,
behind the hyphen of a word, or before or behind a dash between words; a word longer than
a line is cut if that is allowed.
-/

namespace Tweaks.Text

/-! ## Words -/

/-- The blanks between words. -/
def isGap (c : Char) : Bool :=
  c = ' ' || (0x09 ≤ c.toNat && c.toNat ≤ 0x0d)

/-- Whether a character is a part of a word that is no digit. -/
def isHyphenated (c : Char) : Bool :=
  isWordChar c && !isDecimalDigit c

/-- Whether a dash may follow a character. -/
def precedesDash (c : Char) : Bool :=
  isWordChar c || "!\x22'&.,?".toList.contains c

/-- Whether a hyphen joins two parts of a word.  What is before it is given backwards. -/
def joinsParts (before after : List Char) : Bool :=
  let left := match before with
    | a :: '-' :: b :: _ => isHyphenated a && isHyphenated b
    | a :: b :: _ => isHyphenated a && isHyphenated b
    | _ => false
  let right := match after with
    | a :: '-' :: b :: _ => isHyphenated a && isHyphenated b
    | a :: b :: _ => isHyphenated a && isHyphenated b
    | _ => false
  left && right

/-- The number of hyphens that a text starts with, if they are a dash before a word. -/
def dashLength? (s : List Char) : Option Nat :=
  let n := (s.takeWhile (· = '-')).length
  if 2 ≤ n && (s.drop n).head?.any isWordChar then some n else none

/-- A word at the start of a text, up to where a line may end, and the rest.  What is
before it is given backwards. -/
def wordChunk (hyphens : Bool) (before : List Char) : List Char → List Char × List Char
  | [] => ([], [])
  | c :: s =>
    let behind := c :: before
    if hyphens && s.head? = some '-' && joinsParts behind s.tail then ([c, '-'], s.tail)
    else if s.head?.all isGap then ([c], s)
    else if hyphens && precedesDash c && (dashLength? s).isSome then ([c], s)
    else
      let (word, rest) := wordChunk hyphens behind s
      (c :: word, rest)

/-- The part of a text that comes next: blanks, a dash, or a word; and the rest. -/
def nextChunk (hyphens : Bool) (before s : List Char) : List Char × List Char :=
  if s.head?.any isGap then (s.takeWhile isGap, s.dropWhile isGap)
  else
    match (if hyphens && before.head?.any precedesDash then dashLength? s else none) with
    | some n => (s.take n, s.drop n)
    | none => wordChunk hyphens before s

/-- The parts of a text between which lines may end. -/
def chunks (hyphens : Bool) : (fuel : Nat) → (before : List Char) → List Char →
    List (List Char)
  | 0, _, s => [s]
  | _, _, [] => []
  | fuel + 1, before, c :: s =>
    let (chunk, rest) := nextChunk hyphens before (c :: s)
    chunk :: chunks hyphens fuel (chunk.reverse ++ before) rest

/-! ## Lines -/

/-- How words are wrapped: the width of lines, whether lines end at hyphens, and whether
words that are longer than a line are cut. -/
structure WrapStyle where
  width : Nat
  hyphens : Bool
  cutsWords : Bool
deriving DecidableEq, Repr, Inhabited

/-- Whether there is nothing but blanks in a part. -/
def isBlankChunk (chunk : List Char) : Bool :=
  chunk.all isBlank

/-- The parts that fit into a line of which so much is used, and the other ones. -/
def fitting (width used : Nat) : List (List Char) → List (List Char) × List (List Char)
  | [] => ([], [])
  | chunk :: rest =>
    if used + chunk.length ≤ width then
      let (line, others) := fitting width (used + chunk.length) rest
      (chunk :: line, others)
    else ([], chunk :: rest)

/-- The number of characters of a long word that stay on a line with so much room. -/
def cutPlace (hyphens : Bool) (room : Nat) (word : List Char) : Nat :=
  let start := word.take room
  let place := start.length - (start.reverse.takeWhile (· ≠ '-')).length
  if hyphens && room < word.length && 1 < place && start.contains '-' &&
      (start.take (place - 1)).any (· ≠ '-') then place
  else room

/-- The parts of a line, and the parts behind it.  A word that fits on no line is cut, or
stands on a line by itself; a line without any width takes one character of it. -/
def takeLine (style : WrapStyle) (parts : List (List Char)) :
    List (List Char) × List (List Char) :=
  match fitting style.width 0 parts with
  | (line, word :: rest) =>
    if style.width < word.length then
      if style.cutsWords then
        let room := if style.width = 0 then 1 else style.width - line.flatten.length
        let place := cutPlace style.hyphens room word
        (line ++ [word.take place], word.drop place :: rest)
      else if line.isEmpty then ([word], rest)
      else (line, word :: rest)
    else (line, word :: rest)
  | (line, []) => (line, [])

/-- The lines that parts make up.  Blanks at their ends are dropped, and at their starts
but for the first line. -/
def wrappedParts (style : WrapStyle) : (fuel : Nat) → (isFirst : Bool) → List (List Char) →
    List (List Char)
  | 0, _, _ => []
  | fuel + 1, isFirst, parts =>
    let parts := match parts with
      | chunk :: rest => if isBlankChunk chunk && !isFirst then rest else parts
      | [] => []
    if parts.isEmpty then []
    else
      let (line, rest) := takeLine style parts
      let line := if line.getLast?.any isBlankChunk then line.dropLast else line
      if line.isEmpty then wrappedParts style fuel isFirst rest
      else line.flatten :: wrappedParts style fuel false rest

/-- Whether a word of a text is cut. -/
def cutsWord (style : WrapStyle) (s : List Char) : Bool :=
  style.cutsWords && (chunks style.hyphens (s.length + 1) [] s).any (style.width < ·.length)

/-- The lines of a text. -/
def wrapped (style : WrapStyle) (s : List Char) : List (List Char) :=
  let parts := chunks style.hyphens (s.length + 1) [] s
  wrappedParts style (2 * s.length + 2) true parts

end Tweaks.Text
