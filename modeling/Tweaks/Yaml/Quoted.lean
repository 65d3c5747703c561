import Tweaks.Text.HalfPair
import Tweaks.Yaml.Cursor

/-!
# Quoted scalars

Scalars between quotes.  A quote is doubled between single quotes and escaped
between double quotes, where a backslash also spells other characters.  Line
breaks fold: a single one reads as a space, and of several all but the first are
kept.
-/

namespace Tweaks.Yaml

/-- The character that an escape of one letter spells. -/
def simpleEscape? (c : Char) : Option Char :=
  match c with
  | '0' => some '\x00'
  | 'a' => some '\x07'
  | 'b' => some '\x08'
  | 't' => some '\t'
  | '\t' => some '\t'
  | 'n' => some '\n'
  | 'v' => some '\x0b'
  | 'f' => some '\x0c'
  | 'r' => some '\r'
  | 'e' => some '\x1b'
  | ' ' => some ' '
  | '\x22' => some '\x22'
  | '\\' => some '\\'
  | '/' => some '/'
  | 'N' => some '\x85'
  | '_' => some '\xa0'
  | 'L' => some '\u2028'
  | 'P' => some '\u2029'
  | _ => none

/-- The number of hexadecimal digits behind an escape that spells a character by
its number. -/
def escapeWidth? (c : Char) : Option Nat :=
  if c = 'x' then some 2 else if c = 'u' then some 4 else if c = 'U' then some 8 else none

/-- The character with a number, as far as there is one; half of a pair is one. -/
def characterOf (n : Nat) : Result Char :=
  match Text.numbered? n with
  | some c => .ok c
  | none => if n < 0x80000000 then .error .impossibleValue else .error .tooLarge

/-- The breaks of blank lines and the place of the next character that is no
blank.  A marker of a document's end must not stand between quotes. -/
def quotedBreaks : (fuel : Nat) → Cursor → Result (List Char × Cursor)
  | 0, _ => .error .malformed
  | fuel + 1, c =>
    if c.startsDocumentMarker then .error .malformed
    else
      let c := c.skipWhile fun d => d = ' ' || d = '\t'
      match c.lineBreak? with
      | none => .ok ([], c)
      | some (first, c) => do
        let (others, c) ← quotedBreaks fuel c
        return (first :: others, c)

/-- The blanks between two words of a quoted scalar, folded. -/
def quotedBlanks (c : Cursor) : Result (List Char × Cursor) :=
  let (blanks, c) := c.takeWhile fun d => d = ' ' || d = '\t'
  if c.isAtEnd then .error .malformed
  else
    match c.lineBreak? with
    | none => .ok (blanks, c)
    | some (first, c) => do
      let (others, c) ← quotedBreaks c.steps c
      let folded := if first ≠ '\n' then [first] else if others.isEmpty then [' '] else []
      return (folded ++ others, c)

/-- The number that exactly `width` hexadecimal digits at the cursor spell. -/
def digitsAt? (width : Nat) (c : Cursor) : Option Nat :=
  let digits := c.rest.take width
  if digits.length = width then hexNumber? digits else none

/-- An escape behind its backslash: what it spells, and the place behind it. -/
def escape (c : Cursor) : Result (List Char × Cursor) :=
  match simpleEscape? c.peek with
  | some d => .ok ([d], c.next)
  | none =>
    match escapeWidth? c.peek with
    | some width =>
      match digitsAt? width c.next with
      | none => .error .malformed
      | some n => (characterOf n).map fun d => ([d], c.advance (1 + width))
    | none =>
      match c.lineBreak? with
      | some (_, c) => quotedBreaks c.steps c
      | none => .error .malformed

/-- Whether a character is part of a word between quotes. -/
def isQuotedChar (c : Char) : Bool :=
  !(c = '\x27' || c = '\x22' || c = '\\' || isBlankOrEnd c)

/-- The text of a quoted scalar up to its closing quote, which is `mark`. -/
def quotedText (mark : Char) : (fuel : Nat) → Cursor → Result (List Char × Cursor)
  | 0, _ => .error .malformed
  | fuel + 1, c => do
    let d := c.peek
    let (piece, c, closed) ←
      (if isQuotedChar d then
        let (word, c) := c.takeWhile isQuotedChar
        .ok (word, c, false)
      else if d = mark then
        if mark = '\x27' && c.peekAt 1 = mark then .ok ([mark], c.advance 2, false)
        else .ok ([], c.next, true)
      else if d = '\x27' || d = '\x22' then .ok ([d], c.next, false)
      else if d = '\\' then
        if mark = '\x22' then do
          let (text, c) ← escape c.next
          return (text, c, false)
        else .ok ([d], c.next, false)
      else do
        let (text, c) ← quotedBlanks c
        return (text, c, false) : Result (List Char × Cursor × Bool))
    if closed then return (piece, c)
    else
      let (more, c) ← quotedText mark fuel c
      return (piece ++ more, c)

/-- A quoted scalar, from its opening quote on. -/
def quotedScalar (c : Cursor) : Result (List Char × Cursor) :=
  quotedText c.peek c.steps c.next

end Tweaks.Yaml
