import Tweaks.Yaml.Unquoted
import Tweaks.Yaml.Quoted
import Tweaks.Yaml.Token

/-!
# Scanning YAML

Cuts a YAML text into tokens.  Indentation opens and closes block collections.
What stands before a colon is a key: its token is put in place once the colon is
found, so the scanner remembers for every flow level where a key may have begun.

Main results:

- `IsCounted.emit`, `IsCounted.insertToken`, `IsCounted.closeBlocks`: tokens are counted.
-/

namespace Tweaks.Yaml

/-- A place at which a key may have begun: the number of tokens before it, where
it stands, and whether nothing else can stand there. -/
structure KeyStart where
  tokens : Nat
  index : Nat
  line : Nat
  column : Nat
  required : Bool
deriving DecidableEq, Repr

/-- What the scanner knows. -/
structure Scanner where
  cursor : Cursor
  /-- The tokens, the latest first. -/
  tokens : List Token
  /-- The number of tokens. -/
  count : Nat
  /-- Where a key may have begun, for the innermost flow level first.  The last
  place is for the block level. -/
  keys : List (Option KeyStart)
  /-- The column of the innermost block collection, and of those around it. -/
  indent : Int
  indents : List Int
  /-- Whether a key may begin here. -/
  keyAllowed : Bool
deriving DecidableEq, Repr

namespace Scanner

/-- The scanner at the start of a text. -/
def start (text : List Char) : Scanner :=
  ⟨Cursor.start text, [], 0, [none], -1, [], true⟩

/-- Whether a flow collection is open. -/
def inFlow (s : Scanner) : Bool :=
  1 < s.keys.length

/-- The scanner with one more token. -/
def emit (s : Scanner) (t : Token) : Scanner :=
  { s with tokens := t :: s.tokens, count := s.count + 1 }

/-- The scanner with a token at the given number from the start. -/
def insertToken (s : Scanner) (number : Nat) (t : Token) : Scanner :=
  let behind := s.count - number
  { s with
    tokens := s.tokens.take behind ++ t :: s.tokens.drop behind
    count := s.count + 1 }

/-! ## Keys -/

/-- Forgets the places that are too far away for a key, on another line or more
than 1024 characters back. -/
def dropStaleKeys (s : Scanner) : Result Scanner :=
  let stale (key : KeyStart) : Bool :=
    key.line ≠ s.cursor.line || key.index + 1024 < s.cursor.index
  if s.keys.any fun key => key.any fun k => stale k && k.required then .error .malformed
  else .ok { s with keys := s.keys.map fun key => key.filter fun k => !stale k }

/-- Forgets the place of the innermost flow level. -/
def forgetKey (s : Scanner) : Result Scanner :=
  match s.keys with
  | some key :: keys =>
    if key.required then .error .malformed else .ok { s with keys := none :: keys }
  | _ => .ok s

/-- Remembers that a key may begin here. -/
def rememberKey (s : Scanner) : Result Scanner := do
  if s.keyAllowed then
    let s ← s.forgetKey
    let required := !s.inFlow && s.indent = s.cursor.column
    let key : KeyStart :=
      ⟨s.count, s.cursor.index, s.cursor.line, s.cursor.column, required⟩
    return { s with keys := some key :: s.keys.drop 1 }
  else return s

/-! ## Indentation -/

/-- Closes the block collections that are indented further than a column. -/
def closeBlocks (s : Scanner) (column : Int) : Scanner :=
  if s.inFlow then s
  else
    let closed := (s.indent :: s.indents).takeWhile fun i => column < i
    match (s.indent :: s.indents).drop closed.length with
    | [] => s
    | indent :: indents =>
      { s with
        indent, indents
        tokens := closed.map (fun _ => .blockEnd) ++ s.tokens
        count := s.count + closed.length }

/-- Opens a block collection at a column, unless one is open there. -/
def openBlock (s : Scanner) (column : Nat) : Option Scanner :=
  if s.indent < column then
    some { s with indent := column, indents := s.indent :: s.indents }
  else none

/-! ## One token -/

/-- Goes past spaces, comments and breaks to the next token. -/
def skipToToken : (fuel : Nat) → Scanner → Scanner
  | 0, s => s
  | fuel + 1, s =>
    let c := s.cursor.skipSpaces.skipComment
    match c.lineBreak? with
    | none => { s with cursor := c }
    | some (_, c) =>
      skipToToken fuel { s with cursor := c, keyAllowed := s.keyAllowed || !s.inFlow }

/-- Goes past a byte order mark at the start of the text. -/
def skipByteOrderMark (s : Scanner) : Scanner :=
  if s.cursor.index = 0 && s.cursor.peek = byteOrderMark then { s with cursor := s.cursor.next }
  else s

/-- The end of the text. -/
def atEnd (s : Scanner) : Result Scanner := do
  let s ← (s.closeBlocks (-1)).forgetKey
  return s.emit .streamEnd

/-- A token that is read from a content of its own, before which no key can
begin. -/
def directive (s : Scanner) : Result Scanner := do
  let s ← (s.closeBlocks (-1)).forgetKey
  let (token, cursor) ← directiveToken s.cursor
  return { s with cursor, keyAllowed := false }.emit token

/-- The marker of a document's start or end. -/
def documentMarker (s : Scanner) (token : Token) : Result Scanner := do
  let s ← (s.closeBlocks (-1)).forgetKey
  return { s with cursor := s.cursor.advance 3, keyAllowed := false }.emit token

/-- The start of a flow collection. -/
def openFlow (s : Scanner) (token : Token) : Result Scanner := do
  let s ← s.rememberKey
  return { s with keys := none :: s.keys, cursor := s.cursor.next, keyAllowed := true }.emit token

/-- The end of a flow collection. -/
def closeFlow (s : Scanner) (token : Token) : Result Scanner := do
  let s ← s.forgetKey
  if s.inFlow then
    return { s with
      keys := s.keys.drop 1, cursor := s.cursor.next, keyAllowed := false }.emit token
  else .error .malformed

/-- The comma of a flow collection. -/
def flowEntry (s : Scanner) : Result Scanner := do
  let s ← s.forgetKey
  return { s with cursor := s.cursor.next, keyAllowed := true }.emit .flowEntry

/-- Opens a block collection for an entry that begins here, if none is open. -/
def openFor (s : Scanner) (opening : Token) : Result Scanner :=
  if s.inFlow then .ok s
  else if s.keyAllowed then
    match s.openBlock s.cursor.column with
    | some s => .ok (s.emit opening)
    | none => .ok s
  else .error .malformed

/-- The dash of a block sequence. -/
def blockEntry (s : Scanner) : Result Scanner := do
  let s ← s.openFor .blockSequenceStart
  let s ← { s with keyAllowed := true }.forgetKey
  return { s with cursor := s.cursor.next }.emit .blockEntry

/-- The question mark before a key. -/
def explicitKey (s : Scanner) : Result Scanner := do
  let s ← s.openFor .blockMappingStart
  let s ← { s with keyAllowed := !s.inFlow }.forgetKey
  return { s with cursor := s.cursor.next }.emit .key

/-- The colon between key and value.  If a key may have begun before it, the
tokens of the key are put in place. -/
def value (s : Scanner) : Result Scanner := do
  let s ← (match s.keys with
    | some key :: keys =>
      let s := { s with keys := none :: keys }.insertToken key.tokens .key
      let s := if s.inFlow then s else
        match s.openBlock key.column with
        | some s => s.insertToken key.tokens .blockMappingStart
        | none => s
      .ok { s with keyAllowed := false }
    | _ => do
      let s ← s.openFor .blockMappingStart
      { s with keyAllowed := !s.inFlow }.forgetKey : Result Scanner)
  return { s with cursor := s.cursor.next }.emit .value

/-- A token that may begin a key. -/
def keyPart (s : Scanner) (read : Cursor → Result (Token × Cursor)) : Result Scanner := do
  let s ← s.rememberKey
  let (token, cursor) ← read s.cursor
  return { s with cursor, keyAllowed := false }.emit token

/-- A plain scalar, behind which a key may begin only on another line. -/
def plain (s : Scanner) : Result Scanner := do
  let s ← s.rememberKey
  let scalar := plainScalar s.inFlow (s.indent + 1).toNat s.cursor
  return { s with cursor := scalar.after, keyAllowed := scalar.atLineStart }.emit
    (.scalar true scalar.text)

/-- A block scalar. -/
def block (s : Scanner) : Result Scanner := do
  let s ← s.forgetKey
  let (text, cursor) ← blockScalar s.indent s.cursor
  return { s with cursor, keyAllowed := true }.emit (.scalar false text)

/-- Whether a plain scalar may begin with `c` when `following` is next. -/
def startsPlain (inFlow : Bool) (c following : Char) : Bool :=
  let indicators := "-?:,[]\x7b\x7d#&*!|>\x27\x22%@\x60".toList
  !(isBlankOrEnd c || indicators.contains c) ||
    (!isBlankOrEnd following && (c = '-' || (!inFlow && (c = '?' || c = ':'))))

/-- Reads one more token, at a place where one begins. -/
def readToken (s : Scanner) : Result Scanner :=
  let c := s.cursor
  let d := c.peek
  let blankFollows := isBlankOrEnd (c.peekAt 1)
  if d = '%' && c.column = 0 then s.directive
  else if c.column = 0 && c.startsMarker '-' then s.documentMarker .documentStart
  else if c.column = 0 && c.startsMarker '.' then s.documentMarker .documentEnd
  else if d = '[' then s.openFlow .flowSequenceStart
  else if d = '{' then s.openFlow .flowMappingStart
  else if d = ']' then s.closeFlow .flowSequenceEnd
  else if d = '}' then s.closeFlow .flowMappingEnd
  else if d = ',' then s.flowEntry
  else if d = '-' && blankFollows then s.blockEntry
  else if d = '?' && (s.inFlow || blankFollows) then s.explicitKey
  else if d = ':' && (s.inFlow || blankFollows) then s.value
  else if d = '*' then s.keyPart fun c => do
    let (name, c) ← anchorName c
    return (.alias name, c)
  else if d = '&' then s.keyPart fun c => do
    let (name, c) ← anchorName c
    return (.anchor name, c)
  else if d = '!' then s.keyPart tagToken
  else if (d = '|' || d = '>') && !s.inFlow then s.block
  else if d = '\x27' || d = '\x22' then s.keyPart fun c => do
    let (text, c) ← quotedScalar c
    return (.scalar false text, c)
  else if startsPlain s.inFlow d (c.peekAt 1) then s.plain
  else .error .malformed

/-- Goes to the next token and reads it. -/
def step (s : Scanner) : Result Scanner := do
  let s := s.skipByteOrderMark
  let s := s.skipToToken s.cursor.steps
  let s ← s.dropStaleKeys
  let s := s.closeBlocks s.cursor.column
  if s.cursor.isAtEnd then s.atEnd else s.readToken

/-- Reads tokens up to the end of the text, or to the place from which on it
cannot be read. -/
def run : (fuel : Nat) → Scanner → List Token
  | 0, s => (.fault .malformed :: s.tokens).reverse
  | fuel + 1, s =>
    match s.step with
    | .error f => (.fault f :: s.tokens).reverse
    | .ok s =>
      match s.tokens with
      | .streamEnd :: _ => s.tokens.reverse
      | _ => s.run fuel

end Scanner

/-- The tokens of a text. -/
def scan (text : List Char) : List Token :=
  if text.all isAllowed then (Scanner.start text).run (text.length + 2)
  else [.fault .malformed]

end Tweaks.Yaml
