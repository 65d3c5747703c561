/-!
# Reading positions

A place in a YAML text: what is left to read, and index, line and column of the
next character.  The NUL character, which no YAML text holds, stands for the end
of the text.

Main results:

- `rest_advance`: going forward drops characters from what is left.
-/

namespace Tweaks.Yaml

/-- Why a text gives no document. -/
inductive Fault where
  /-- The text is not well formed, or holds a value of an unknown kind. -/
  | malformed
  /-- A value of a known kind that does not exist, such as a thirteenth month. -/
  | impossibleValue
  /-- A truth value by a word that is none. -/
  | unknownWord
  /-- A number without a digit. -/
  | emptyNumber
  /-- A moment that is not written as one. -/
  | shapelessMoment
  /-- A number beyond every limit. -/
  | tooLarge
  /-- A scalar that is spelled by itself. -/
  | endless
  /-- Collections too far within one another. -/
  | tooDeep
  /-- A moment that a mapping spells. -/
  | wrongShape
deriving DecidableEq, Repr

/-- A part of a text that is read, or the reason why it is not. -/
abbrev Result := Except Fault

/-- Whether a YAML text may hold a character. -/
def isAllowed (c : Char) : Bool :=
  let n := c.toNat
  n = 0x09 || n = 0x0a || n = 0x0d || (0x20 ≤ n && n ≤ 0x7e) || n = 0x85 ||
    (0xa0 ≤ n && n ≤ 0xd7ff) || (0xe000 ≤ n && n ≤ 0xfffd) || 0x10000 ≤ n

/-! ## Classes of characters -/

/-- The character that stands for the end of the text. -/
def endMark : Char := '\x00'

/-- The byte order mark, which takes no column. -/
def byteOrderMark : Char := '\ufeff'

/-- The characters that break lines. -/
def isBreak (c : Char) : Bool :=
  c = '\n' || c = '\r' || c = '\x85' || c = '\u2028' || c = '\u2029'

/-- Breaks, and the end of the text. -/
def isBreakOrEnd (c : Char) : Bool :=
  isBreak c || c = endMark

/-- Spaces, breaks, and the end of the text. -/
def isSpaceOrEnd (c : Char) : Bool :=
  c = ' ' || isBreakOrEnd c

/-- Spaces, tabs, breaks, and the end of the text. -/
def isBlankOrEnd (c : Char) : Bool :=
  c = '\t' || isSpaceOrEnd c

/-- The characters of anchors, handles and directives. -/
def isWordChar (c : Char) : Bool :=
  c.isAlphanum || c = '-' || c = '_'

/-- The value of a hexadecimal digit. -/
def hexValue? (c : Char) : Option Nat :=
  if '0' ≤ c ∧ c ≤ '9' then some (c.toNat - 48)
  else if 'a' ≤ c ∧ c ≤ 'f' then some (c.toNat - 87)
  else if 'A' ≤ c ∧ c ≤ 'F' then some (c.toNat - 55)
  else none

/-- The number that hexadecimal digits spell. -/
def hexNumber? (digits : List Char) : Option Nat :=
  digits.foldl (fun value c => do return 16 * (← value) + (← hexValue? c)) (some 0)

/-! ## Cursors -/

/-- A place in a text. -/
structure Cursor where
  rest : List Char
  /-- The number of characters of the whole text. -/
  size : Nat
  index : Nat
  line : Nat
  column : Nat
deriving DecidableEq, Repr

namespace Cursor

/-- The start of a text. -/
def start (text : List Char) : Cursor := ⟨text, text.length, 0, 0, 0⟩

/-- A number of steps that suffices to go through what is left. -/
def steps (c : Cursor) : Nat := c.size + 1

/-- The character that many places ahead. -/
def peekAt (c : Cursor) (n : Nat) : Char :=
  c.rest.getD n endMark

/-- The next character. -/
def peek (c : Cursor) : Char :=
  match c.rest with
  | [] => endMark
  | d :: _ => d

/-- Whether the text is read to its end. -/
def isAtEnd (c : Cursor) : Bool :=
  c.rest.isEmpty

/-- The place behind the next character.  Of a carriage return and a line feed,
the line feed breaks the line. -/
def next (c : Cursor) : Cursor :=
  match c.rest with
  | [] => c
  | d :: rest =>
    if (isBreak d && d ≠ '\r') || (d = '\r' && rest.head? ≠ some '\n') then
      ⟨rest, c.size, c.index + 1, c.line + 1, 0⟩
    else if d = byteOrderMark then ⟨rest, c.size, c.index + 1, c.line, c.column⟩
    else ⟨rest, c.size, c.index + 1, c.line, c.column + 1⟩

/-- The place that many characters ahead. -/
def advance (c : Cursor) : Nat → Cursor
  | 0 => c
  | n + 1 => c.next.advance n

/-- Going forward drops characters from what is left. -/
theorem rest_next (c : Cursor) : c.next.rest = c.rest.drop 1 := by
  unfold next
  split
  · simp [*]
  · next d rest h =>
    rw [h]
    split
    · rfl
    · split <;> rfl

/-- Going forward drops characters from what is left. -/
theorem rest_advance (c : Cursor) (n : Nat) : (c.advance n).rest = c.rest.drop n := by
  induction n generalizing c with
  | zero => rfl
  | succ n ih => rw [advance, ih, rest_next, List.drop_drop, Nat.add_comm]

/-- The characters up to the first that fails a test, and the place behind. -/
def takeWhile (c : Cursor) (p : Char → Bool) : List Char × Cursor :=
  let taken := c.rest.takeWhile p
  (taken, c.advance taken.length)

/-- The place behind all characters that pass a test. -/
def skipWhile (c : Cursor) (p : Char → Bool) : Cursor :=
  (c.takeWhile p).2

/-- The place behind spaces. -/
def skipSpaces (c : Cursor) : Cursor :=
  c.skipWhile (· = ' ')

/-- The place behind spaces, as far as the given column. -/
def skipIndent (c : Cursor) (column : Nat) : Cursor :=
  c.advance ((c.rest.takeWhile (· = ' ')).take (column - c.column)).length

/-- The place behind a comment, if one starts here. -/
def skipComment (c : Cursor) : Cursor :=
  if c.peek = '#' then c.skipWhile fun d => !isBreakOrEnd d else c

/-- The break that is read here, and the place behind it.  All breaks but the
separators of lines and paragraphs read as a line feed. -/
def lineBreak? (c : Cursor) : Option (Char × Cursor) :=
  match c.rest with
  | '\r' :: '\n' :: _ => some ('\n', c.advance 2)
  | d :: _ =>
    if d = '\u2028' || d = '\u2029' then some (d, c.next)
    else if isBreak d then some ('\n', c.next)
    else none
  | [] => none

/-- Whether a line starts here with three equal marks and a blank. -/
def startsMarker (c : Cursor) (mark : Char) : Bool :=
  c.peek = mark && c.peekAt 1 = mark && c.peekAt 2 = mark && isBlankOrEnd (c.peekAt 3)

/-- Whether a marker of a document's start or end is here. -/
def startsDocumentMarker (c : Cursor) : Bool :=
  c.startsMarker '-' || c.startsMarker '.'

/-- The place behind the blanks and the comment with which a line ends. -/
def endOfLine (c : Cursor) : Result Cursor :=
  let c := c.skipSpaces.skipComment
  if isBreakOrEnd c.peek then
    match c.lineBreak? with
    | some (_, c) => .ok c
    | none => .ok c
  else .error .malformed

end Cursor

end Tweaks.Yaml
