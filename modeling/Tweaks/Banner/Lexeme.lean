import Tweaks.Banner.Literal
import Tweaks.Text.Blank
import Tweaks.Text.Mark
import Tweaks.Text.Lines

/-!
# Pieces of banner templates

Cuts the source of a banner into text and tags, and the tags into words, texts,
numbers and marks.  A sign at the edge of a tag removes the blanks beside it.
-/

namespace Tweaks.Banner

open Text

/-- A word, text, number or mark within a tag. -/
inductive Lexeme where
  | word (value : String)
  | text (value : String)
  | number (value : Nat)
  /-- The number that digits spell, with an exponent of ten for the last of them. -/
  | decimal (digits : Nat) (exponent : Int)
  /-- What is spelled like a number but cannot be read as one. -/
  | unreadable (fault : Fault)
  | mark (value : String)
deriving DecidableEq, Repr

/-- A part of a banner's source. -/
inductive Segment where
  | text (value : List Char)
  | output (lexemes : List Lexeme)
  | block (lexemes : List Lexeme)
deriving DecidableEq, Repr

/-- A source with line feeds as its only breaks, and without the one at its end. -/
def normalize (source : List Char) : List Char :=
  let lines := splitLines source
  joinWith ['\n'] (if lines.getLast? = some [] then lines.dropLast else lines)

/-- The marks of two characters. -/
def longMarks : List (List Char) :=
  [['/', '/'], ['*', '*'], ['=', '='], ['!', '='], ['>', '='], ['<', '=']]

/-- The marks of one character. -/
def shortMarks : List Char :=
  "+-/*%~[]()\x7b\x7d<>=.:|,;".toList

/-- A whole number as a lexeme. -/
def integerLexeme (base : Nat) (digits : List Char) : Lexeme :=
  if base = 10 && Decimal.mostDigits < digits.length then .unreadable .wrongValue
  else .number (baseValue base digits)

/-- A decimal number as a lexeme.  Its digits are those of ASCII. -/
def decimalLexeme (literal : DecimalLiteral) (source : List Char) : Lexeme :=
  if source.all fun c => c.toNat < 128 then
    .decimal (Text.digitsValue literal.digits) literal.exponent
  else .unreadable .illFormed

/-- A word as a lexeme, if it is a name. -/
def wordLexeme? (s : List Char) : Option (Lexeme × List Char) :=
  let word := s.takeWhile fun c => Text.isWordChar c || Text.continuesIdentifier c
  if Text.isIdentifier word then some (.word (String.ofList word), s.drop word.length) else none

/-- A mark as a lexeme. -/
def markLexeme? (s : List Char) : Option (Lexeme × List Char) :=
  match s with
  | [] => none
  | c :: rest =>
    if longMarks.contains (s.take 2) then some (.mark (String.ofList (s.take 2)), s.drop 2)
    else if shortMarks.contains c then some (.mark (String.ofList [c]), rest)
    else none

/-- A word, text, number or mark, and the text behind it.  No decimal number starts behind
a point. -/
def nextLexeme? (behindPoint : Bool) (s : List Char) : Option (Lexeme × List Char) :=
  match s with
  | [] => none
  | c :: rest =>
    match (if behindPoint then none else decimalLiteral? s) with
    | some (literal, rest) =>
      some (decimalLexeme literal (s.take (s.length - rest.length)), rest)
    | none =>
      match integerLiteral? s with
      | some ((base, digits), rest) => some (integerLexeme base digits, rest)
      | none =>
        if Text.isWordChar c || Text.continuesIdentifier c then wordLexeme? s
        else if c = '\x27' || c = '\x22' then do
          let (source, rest) ← quoted? c rest
          return (.text (← literalText? source), rest)
        else markLexeme? s

/-- The bracket that closes an opening one. -/
def closingOf? (c : Char) : Option Char :=
  if c = '(' then some ')' else if c = '[' then some ']' else if c = '{' then some '}' else none

/-- The end of a tag: whether it removes the blanks behind it, and the text there.
`inner` is the character before the closing brace. -/
def tagEnd? (inner : Char) (s : List Char) : Option (Bool × List Char) :=
  match s with
  | a :: b :: rest =>
    if a = inner && b = '}' then some (false, rest)
    else if a = '-' && b = inner && rest.head? = some '}' then some (true, rest.tail)
    else if a = '+' && inner ≠ '}' && b = inner && rest.head? = some '}' then
      some (false, rest.tail)
    else none
  | _ => none

/-- The lexemes of a tag up to its end, outside of all brackets. -/
def tagLexemes (inner : Char) : (fuel : Nat) → (behindPoint : Bool) → (brackets : List Char) →
    List Char → Option (List Lexeme × Bool × List Char)
  | 0, _, _, _ => none
  | fuel + 1, behindPoint, brackets, s =>
    match (if brackets.isEmpty then tagEnd? inner s else none) with
    | some (trim, rest) => some ([], trim, rest)
    | none =>
      match s with
      | [] => none
      | c :: rest =>
        if isBlank c then tagLexemes inner fuel false brackets rest
        else do
          let (lexeme, rest) ← nextLexeme? behindPoint s
          let brackets ← (match lexeme with
            | .mark _ =>
              match closingOf? c with
              | some close => some (close :: brackets)
              | none =>
                if c = ')' || c = ']' || c = '}' then
                  (if brackets.head? = some c then some brackets.tail else none)
                else some brackets
            | _ => some brackets)
          let (lexemes, trim, rest) ← tagLexemes inner fuel (c = '.') brackets rest
          return (lexeme :: lexemes, trim, rest)

/-- The text up to the next tag, the second character of the tag's opening, and
the text behind that. -/
def nextTag? : List Char → Option (List Char × Char × List Char)
  | '{' :: c :: s =>
    if c = '{' || c = '%' || c = '#' then some ([], c, s)
    else (nextTag? (c :: s)).map fun (before, d, rest) => ('{' :: before, d, rest)
  | c :: s => (nextTag? s).map fun (before, d, rest) => (c :: before, d, rest)
  | [] => none

/-- The text behind a comment. -/
def afterComment? : List Char → Option (Bool × List Char)
  | [] => none
  | c :: s =>
    match tagEnd? '#' (c :: s) with
    | some found => some found
    | none => afterComment? s

/-- The sign at the start of a tag: whether it removes the blanks before the tag,
and the text behind it. -/
def tagSign (s : List Char) : Bool × List Char :=
  match s with
  | '-' :: rest => (true, rest)
  | '+' :: rest => (false, rest)
  | _ => (false, s)

/-- A text without the blanks at its end. -/
def dropLastBlanks (s : List Char) : List Char :=
  (dropBlank s.reverse).reverse

/-- Text, unless there is none. -/
def textSegment (s : List Char) : List Segment :=
  if s.isEmpty then [] else [.text s]

/-- The end of a tag with a single word: whether it removes the blanks behind it, and the
text there. -/
def wordTagEnd? (word : List Char) (s : List Char) : Option (Bool × List Char) := do
  let s ← dropExpected? word (dropBlank s)
  tagEnd? '%' (dropBlank s)

/-- The start of text that is to be taken as it is, behind the sign of its tag. -/
def rawStart? (s : List Char) : Option (List Char) :=
  match wordTagEnd? "raw".toList s, (dropBlank ((dropBlank s).drop 3)).head? with
  | some (trim, rest), c =>
    if c = some '+' then none else some (if trim then dropBlank rest else rest)
  | none, _ => none

/-- The end of text that is to be taken as it is: what it says, whether the tag
removes the blanks before it, and the rest. -/
def rawEnd? : List Char → Option (List Char × Bool × List Char)
  | [] => none
  | c :: rest =>
    let found := match c :: rest with
      | '{' :: '%' :: body =>
        let (trimBefore, body) := tagSign body
        (wordTagEnd? "endraw".toList body).map fun (trim, after) =>
          (trimBefore, if trim then dropBlank after else after)
      | _ => none
    match found with
    | some (trimBefore, after) => some ([], trimBefore, after)
    | none => (rawEnd? rest).map fun (t, trim, after) => (c :: t, trim, after)

/-- Cuts a source into segments.  At the end of the source a comment or text that is to be
taken as it is may stay open if there is nothing in it. -/
def segmentsFrom : (fuel : Nat) → List Char → Option (List Segment)
  | 0, _ => none
  | fuel + 1, s =>
    match nextTag? s with
    | none => some (textSegment s)
    | some (before, kind, rest) => do
      let (trimBefore, rest) := tagSign rest
      let before := textSegment (if trimBefore then dropLastBlanks before else before)
      if kind = '#' then
        if rest.isEmpty then return before
        else
          let (trimAfter, rest) ← afterComment? rest
          return before ++ (← segmentsFrom fuel (if trimAfter then dropBlank rest else rest))
      else
        match (if kind = '%' then rawStart? rest else none) with
        | some rest =>
          if rest.isEmpty then return before
          else
            let (raw, trim, rest) ← rawEnd? rest
            return before ++ textSegment (if trim then dropLastBlanks raw else raw) ++
              (← segmentsFrom fuel rest)
        | none =>
          let inner := if kind = '{' then '}' else '%'
          let (lexemes, trimAfter, rest) ← tagLexemes inner (rest.length + 1) false [] rest
          let others ← segmentsFrom fuel (if trimAfter then dropBlank rest else rest)
          return before ++ (if kind = '{' then .output lexemes else .block lexemes) :: others

/-- Cuts a source into segments, if all its tags end. -/
def segments? (source : String) : Option (List Segment) :=
  let s := normalize source.toList
  segmentsFrom (s.length + 1) s

end Tweaks.Banner
