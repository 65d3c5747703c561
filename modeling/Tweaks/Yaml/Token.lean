import Tweaks.Text.Octets
import Tweaks.Yaml.Cursor

/-!
# YAML tokens

The tokens of a YAML text, and how those with a content of their own are read:
directives, anchors and tags.
-/

namespace Tweaks.Yaml

/-- A token of a YAML text. -/
inductive Token where
  /-- A version directive, by its major number. -/
  | versionDirective (major : Nat)
  | tagDirective (handle leading : List Char)
  | otherDirective
  | documentStart
  | documentEnd
  | streamEnd
  | blockSequenceStart
  | blockMappingStart
  | blockEnd
  | flowSequenceStart
  | flowSequenceEnd
  | flowMappingStart
  | flowMappingEnd
  | blockEntry
  | flowEntry
  | key
  | value
  | alias (name : List Char)
  | anchor (name : List Char)
  /-- A tag: its handle, if it has one, and what follows the handle. -/
  | tag (handle : Option (List Char)) (suffix : List Char)
  /-- A scalar, and whether it stands without quotes on its lines. -/
  | scalar (plain : Bool) (text : List Char)
  /-- The place from which on the text cannot be read. -/
  | fault (fault : Fault)
deriving DecidableEq, Repr

/-! ## Tags -/

/-- The characters of a tag, apart from escapes. -/
def isTagChar (c : Char) : Bool :=
  c.isAlphanum || "-;/?:@&=+$,_.!~*\x27()[]".toList.contains c

/-- The octets of consecutive escapes, and the place behind them. -/
def tagOctets : (fuel : Nat) → Cursor → Result (List Nat × Cursor)
  | 0, _ => .error .malformed
  | fuel + 1, c =>
    if c.peek = '%' then
      match hexValue? (c.peekAt 1), hexValue? (c.peekAt 2) with
      | some high, some low => do
        let (octets, c) ← tagOctets fuel (c.advance 3)
        return ((16 * high + low) :: octets, c)
      | _, _ => .error .malformed
    else .ok ([], c)

/-- The characters of a tag, with escapes read as octets. -/
def tagText : (fuel : Nat) → Cursor → Result (List Char × Cursor)
  | 0, _ => .error .malformed
  | fuel + 1, c =>
    if c.peek = '%' then do
      let (octets, c) ← tagOctets c.steps c
      match Text.decodeOctets? octets with
      | none => .error .malformed
      | some text => do
        let (more, c) ← tagText fuel c
        return (text ++ more, c)
    else
      match c.takeWhile isTagChar with
      | ([], c) => .ok ([], c)
      | (text, c) => do
        let (more, c) ← tagText fuel c
        return (text ++ more, c)

/-- The characters of a tag, at least one. -/
def someTagText (c : Cursor) : Result (List Char × Cursor) :=
  if isTagChar c.peek || c.peek = '%' then tagText c.steps c
  else .error .malformed

/-- A tag's handle: an exclamation mark alone, or a word between two. -/
def tagHandle (c : Cursor) : Result (List Char × Cursor) :=
  if c.peek = '!' then
    if c.peekAt 1 = ' ' then .ok (['!'], c.next)
    else
      let (word, after) := c.next.takeWhile isWordChar
      if after.peek = '!' then .ok ('!' :: word ++ ['!'], after.next) else .error .malformed
  else .error .malformed

/-- The place of a tag's token and what it is. -/
def tagToken (c : Cursor) : Result (Token × Cursor) := do
  let first := c.peekAt 1
  let (token, c) ←
    (if first = '<' then do
      let (suffix, c) ← someTagText (c.advance 2)
      if c.peek = '>' then return (Token.tag none suffix, c.next) else .error .malformed
    else if isBlankOrEnd first then .ok (Token.tag none ['!'], c.next)
    else if (c.next.rest.takeWhile fun d => !isSpaceOrEnd d).contains '!' then do
      let (handle, c) ← tagHandle c
      let (suffix, c) ← someTagText c
      return (Token.tag (some handle) suffix, c)
    else do
      let (suffix, c) ← someTagText c.next
      return (Token.tag (some ['!']) suffix, c) : Result (Token × Cursor))
  if isSpaceOrEnd c.peek then return (token, c) else .error .malformed

/-! ## Anchors and directives -/

/-- The name of an anchor or alias, behind its mark. -/
def anchorName (c : Cursor) : Result (List Char × Cursor) :=
  match c.next.takeWhile isWordChar with
  | ([], _) => .error .malformed
  | (name, c) =>
    if isBlankOrEnd c.peek || "?:,]\x7d%@\x60".toList.contains c.peek then .ok (name, c)
    else .error .malformed

/-- A decimal number. -/
def directiveNumber (c : Cursor) : Result (Nat × Cursor) :=
  match c.takeWhile Char.isDigit with
  | ([], _) => .error .malformed
  | (digits, c) => .ok (digits.foldl (fun n d => 10 * n + (d.toNat - 48)) 0, c)

/-- The value of a version directive: its major number. -/
def versionValue (c : Cursor) : Result (Token × Cursor) := do
  let (major, c) ← directiveNumber c.skipSpaces
  if c.peek = '.' then
    let (_, c) ← directiveNumber c.next
    if isSpaceOrEnd c.peek then return (.versionDirective major, c) else .error .malformed
  else .error .malformed

/-- The value of a tag directive: a handle and the text it stands for. -/
def tagValue (c : Cursor) : Result (Token × Cursor) := do
  let (handle, c) ← tagHandle c.skipSpaces
  if c.peek = ' ' then
    let (leading, c) ← someTagText c.skipSpaces
    if isSpaceOrEnd c.peek then return (.tagDirective handle leading, c)
    else .error .malformed
  else .error .malformed

/-- A directive, from its percent sign to the end of its line. -/
def directiveToken (c : Cursor) : Result (Token × Cursor) := do
  let (name, c) := c.next.takeWhile isWordChar
  if name.isEmpty || !isSpaceOrEnd c.peek then .error .malformed
  else
    let (token, c) ←
      (if name = "YAML".toList then versionValue c
      else if name = "TAG".toList then tagValue c
      else .ok (.otherDirective, c.skipWhile fun d => !isBreakOrEnd d) :
        Result (Token × Cursor))
    let c ← c.endOfLine
    return (token, c)

end Tweaks.Yaml
