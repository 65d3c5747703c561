import Tweaks.Yaml.Cursor

/-!
# Scalars without quotes

Plain scalars end before a comment, before a colon that a blank follows, at a line that is not
indented far enough, and within flow collections at the marks of these.  Line breaks fold as
between quotes.

Block scalars stand on lines of their own, behind a bar or an angle bracket.  The first keeps
line breaks, the second folds them between lines that start with text.  A plus or minus sign in
the header keeps or drops the breaks at the end; without it one is kept.
-/

namespace Tweaks.Yaml

/-! ## Plain scalars -/

/-- The marks of flow collections. -/
def isFlowMark (c : Char) : Bool :=
  c = ',' || c = '[' || c = ']' || c = '{' || c = '}'

/-- Whether a run of a plain scalar stops before `c`, which `following` follows. -/
def isPlainStop (inFlow : Bool) (c following : Char) : Bool :=
  isBlankOrEnd c ||
    (c = ':' && (isBlankOrEnd following || (inFlow && isFlowMark following))) ||
    (inFlow && (c = '?' || isFlowMark c))

/-- A run of a plain scalar, without blanks. -/
def plainRun (inFlow : Bool) : List Char → List Char
  | [] => []
  | c :: rest =>
    if isPlainStop inFlow c (rest.headD endMark) then [] else c :: plainRun inFlow rest

/-- The breaks of blank lines behind the end of a line, and the place of the next
text; none if a marker of a document's end is reached. -/
def plainBreaks : (fuel : Nat) → Cursor → Option (List Char) × Cursor
  | 0, c => (none, c)
  | fuel + 1, c =>
    if c.startsDocumentMarker then (none, c)
    else
      let c := c.skipSpaces
      match c.lineBreak? with
      | none => (some [], c)
      | some (first, c) =>
        match plainBreaks fuel c with
        | (some others, c) => (some (first :: others), c)
        | (none, c) => (none, c)

/-- The blanks behind a run of a plain scalar: how they read, the place behind
them, and whether a line break is among them. -/
def plainBlanks (c : Cursor) : List Char × Cursor × Bool :=
  let (blanks, c) := c.takeWhile (· = ' ')
  match c.lineBreak? with
  | none => (blanks, c, false)
  | some (first, c) =>
    match plainBreaks c.steps c with
    | (none, c) => ([], c, true)
    | (some others, c) =>
      let folded := if first ≠ '\n' then [first] else if others.isEmpty then [' '] else []
      (folded ++ others, c, true)

/-- A plain scalar that is read: its text, the place behind it and the blanks
that follow, and whether these hold a line break. -/
structure PlainScalar where
  text : List Char
  after : Cursor
  atLineStart : Bool
deriving DecidableEq, Repr

/-- The runs of a plain scalar on lines indented by at least `indent`.  `blanks`
precede the next run and belong to the scalar only if there is one. -/
def plainText (inFlow : Bool) (indent : Nat) :
    (fuel : Nat) → (blanks : List Char) → (atLineStart : Bool) → Cursor → PlainScalar
  | 0, _, atLineStart, c => ⟨[], c, atLineStart⟩
  | fuel + 1, blanks, atLineStart, c =>
    if c.peek = '#' then ⟨[], c, atLineStart⟩
    else
      match plainRun inFlow c.rest with
      | [] => ⟨[], c, atLineStart⟩
      | run =>
        let (following, after, atLineStart) := plainBlanks (c.advance run.length)
        if following.isEmpty || after.peek = '#' || (!inFlow && after.column < indent) then
          ⟨blanks ++ run, after, atLineStart⟩
        else
          let others := plainText inFlow indent fuel following atLineStart after
          { others with text := blanks ++ run ++ others.text }

/-- A plain scalar, from its first character on. -/
def plainScalar (inFlow : Bool) (indent : Nat) (c : Cursor) : PlainScalar :=
  plainText inFlow indent c.steps [] false c

/-! ## Block scalars -/

/-- What becomes of the breaks at the end of a block scalar. -/
inductive Chomping where
  | clip
  | strip
  | keep
deriving DecidableEq, Repr

/-- The end of a block scalar: the break of the last line, and those of blank
lines behind it. -/
def Chomping.tail (chomping : Chomping) (last blank : List Char) : List Char :=
  match chomping with
  | clip => last
  | strip => []
  | keep => last ++ blank

/-- The header of a block scalar: what becomes of the last breaks, and the
indentation if it is given. -/
structure BlockHeader where
  chomping : Chomping
  indent : Option Nat
deriving DecidableEq, Repr

/-- The sign of a header. -/
def chompingSign? (c : Char) : Option Chomping :=
  if c = '+' then some .keep else if c = '-' then some .strip else none

/-- The indentation in a header: a digit that is not zero. -/
def indentDigit (c : Cursor) : Result (Option Nat × Cursor) :=
  if c.peek.isDigit then
    if c.peek = '0' then .error .malformed else .ok (some (c.peek.toNat - 48), c.next)
  else .ok (none, c)

/-- The header of a block scalar, behind its mark. -/
def blockHeader (c : Cursor) : Result (BlockHeader × Cursor) := do
  let (header, c) ←
    (match chompingSign? c.peek with
    | some chomping => do
      let (indent, c) ← indentDigit c.next
      return (⟨chomping, indent⟩, c)
    | none => do
      let (indent, c) ← indentDigit c
      match indent, chompingSign? c.peek with
      | some _, some chomping => return (⟨chomping, indent⟩, c.next)
      | _, _ => return (⟨.clip, indent⟩, c) : Result (BlockHeader × Cursor))
  if isSpaceOrEnd c.peek then return (header, c) else .error .malformed

/-- The breaks of blank lines, and the place at the indentation or before the
first text. -/
def blockBreaks (indent : Nat) : (fuel : Nat) → Cursor → List Char × Cursor
  | 0, c => ([], c)
  | fuel + 1, c =>
    let c := c.skipIndent indent
    match c.lineBreak? with
    | none => ([], c)
    | some (first, c) =>
      let (others, c) := blockBreaks indent fuel c
      (first :: others, c)

/-- The breaks of the blank lines before the first text, and the greatest
indentation on the way there. -/
def firstIndent : (fuel : Nat) → (most : Nat) → Cursor → List Char × Nat × Cursor
  | 0, most, c => ([], most, c)
  | fuel + 1, most, c =>
    let c := c.skipSpaces
    let most := max most c.column
    match c.lineBreak? with
    | none => ([], most, c)
    | some (first, c) =>
      let (others, most, c) := firstIndent fuel most c
      (first :: others, most, c)

/-- The break between two lines of a block scalar, given the break of the first
and those of blank lines between them. -/
def betweenLines (folded : Bool) (ending blank : List Char) (line : List Char) (next : Char) :
    List Char :=
  let indented := line.head? = some ' ' || line.head? = some '\t' || next = ' ' || next = '\t'
  if folded && ending = ['\n'] && !indented then
    (if blank.isEmpty then [' '] else [])
  else ending

/-- The lines of a block scalar from the place on that is at their indentation.
`blank` holds the breaks of the blank lines before it. -/
def blockLines (folded : Bool) (chomping : Chomping) (indent : Nat) :
    (fuel : Nat) → (blank : List Char) → Cursor → List Char × Cursor
  | 0, _, c => ([], c)
  | fuel + 1, blank, c =>
    let (line, c) := c.takeWhile fun d => !isBreakOrEnd d
    let (ending, c) := match c.lineBreak? with
      | some (d, c) => ([d], c)
      | none => ([], c)
    let (following, c) := blockBreaks indent c.steps c
    if c.column = indent && !c.isAtEnd then
      let between := betweenLines folded ending following line c.peek
      let (others, c) := blockLines folded chomping indent fuel following c
      (blank ++ line ++ between ++ others, c)
    else (blank ++ line ++ chomping.tail ending following, c)

/-- A block scalar in a collection indented by `parent`, from its mark on. -/
def blockScalar (parent : Int) (c : Cursor) : Result (List Char × Cursor) := do
  let folded := c.peek = '>'
  let (header, c) ← blockHeader c.next
  let c ← c.endOfLine
  let least := (max (parent + 1) 1).toNat
  let (blank, indent, c) :=
    match header.indent with
    | some n =>
      let indent := least + n - 1
      let (blank, c) := blockBreaks indent c.steps c
      (blank, indent, c)
    | none =>
      let (blank, most, c) := firstIndent c.steps 0 c
      (blank, max least most, c)
  if c.column = indent && !c.isAtEnd then
    return blockLines folded header.chomping indent c.steps blank c
  else return (header.chomping.tail [] blank, c)

end Tweaks.Yaml
