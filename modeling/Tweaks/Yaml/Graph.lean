import Tweaks.Yaml.Kind
import Tweaks.Yaml.Token

/-!
# YAML nodes

The nodes of a document, by number.  A node may be referred to from several
places, also from within itself, so collections hold the numbers of their parts.

Reading goes over the tokens once.  A node's number is taken before its parts
are read; an anchor stands for the number from then on.  How many collections may lie one
within the other is given to the reader at its start.
-/

namespace Tweaks.Yaml

/-- A node of a document. -/
inductive Node where
  | scalar (kind : Kind) (text : List Char)
  | sequence (kind : Kind) (items : List Nat)
  | mapping (kind : Kind) (entries : List (Nat × Nat))
deriving DecidableEq, Repr, Inhabited

/-- The kind of a node. -/
def Node.kind : Node → Kind
  | scalar kind _ => kind
  | sequence kind _ => kind
  | mapping kind _ => kind

/-- The nodes of a document, by number. -/
abbrev Graph := Array Node

/-- What is left of the tokens, and what was read. -/
structure Reader where
  tokens : List Token
  nodes : Graph
  anchors : List (List Char × Nat)
  /-- The tags' handles with the texts they stand for. -/
  handles : List (List Char × List Char)
  /-- How many collections may still begin within those that are being read. -/
  room : Nat
deriving Repr

/-- An anchor, and a tag by its handle and what follows it. -/
structure Properties where
  anchor : Option (List Char)
  tag : Option (Option (List Char) × List Char)
deriving DecidableEq, Repr

namespace Reader

/-- The handles that every document has. -/
def standardHandles : List (List Char × List Char) :=
  [(['!'], ['!']), (['!', '!'], Kind.tagRoot)]

/-- The reader before the first token.  At most `deepest` collections may lie one within the
other. -/
def start (deepest : Nat) (tokens : List Token) : Reader :=
  ⟨tokens, #[], [], standardHandles, deepest⟩

/-- The next token.  There is always one: the end of the text, or the place where
it cannot be read. -/
def peek (r : Reader) : Token :=
  r.tokens.headD .streamEnd

/-- The reader behind the next token. -/
def skip (r : Reader) : Reader :=
  { r with tokens := r.tokens.drop 1 }

/-- Whether the next token is one of the given. -/
def sees (r : Reader) (tokens : List Token) : Bool :=
  tokens.contains r.peek

/-- The reason why the next token does not fit. -/
def unexpected (r : Reader) : Fault :=
  match r.peek with
  | .fault f => f
  | _ => .malformed

/-- Takes the next token, which has to be the given one. -/
def expect (r : Reader) (t : Token) : Result Reader :=
  if r.peek = t then .ok r.skip else .error r.unexpected

/-- Adds a node, and names it if there is an anchor. -/
def reserve (r : Reader) (anchor : Option (List Char)) (node : Node) :
    Result (Nat × Reader) :=
  let id := r.nodes.size
  let r := { r with nodes := r.nodes.push node }
  match anchor with
  | none => .ok (id, r)
  | some name =>
    if r.anchors.any fun a => a.1 = name then .error .malformed
    else .ok (id, { r with anchors := (name, id) :: r.anchors })

/-- Puts a node in the place of its number. -/
def set (r : Reader) (id : Nat) (node : Node) : Reader :=
  { r with nodes := r.nodes.setIfInBounds id node }

/-- Begins a collection: takes a number for it. -/
def enter (r : Reader) (anchor : Option (List Char)) (node : Node) : Result (Nat × Reader) :=
  match r.room with
  | 0 => .error .tooDeep
  | room + 1 => ({ r with room := room } : Reader).reserve anchor node

/-- Ends a collection: puts it in the place of its number. -/
def leave (r : Reader) (id : Nat) (node : Node) : Reader :=
  { r.set id node with room := r.room + 1 }

/-- An empty scalar without properties. -/
def emptyScalar (r : Reader) : Result (Nat × Reader) :=
  r.reserve none (.scalar (Kind.ofPlain []) [])

/-- Reads the properties of a node: an anchor and a tag in either order. -/
def properties (r : Reader) : Properties × Reader :=
  match r.tokens with
  | .anchor name :: .tag handle suffix :: rest =>
    (⟨some name, some (handle, suffix)⟩, { r with tokens := rest })
  | .tag handle suffix :: .anchor name :: rest =>
    (⟨some name, some (handle, suffix)⟩, { r with tokens := rest })
  | .anchor name :: rest => (⟨some name, none⟩, { r with tokens := rest })
  | .tag handle suffix :: rest =>
    (⟨none, some (handle, suffix)⟩, { r with tokens := rest })
  | _ => (⟨none, none⟩, r)

/-- The full tag of a node, if it has one.  The mark of a scalar that is to be
taken as plain counts as none. -/
def fullTag (r : Reader) (p : Properties) : Result (Option (List Char)) :=
  match p.tag with
  | none => .ok none
  | some (none, suffix) => .ok (some suffix)
  | some (some handle, suffix) =>
    match r.handles.lookup handle with
    | some leading => .ok (some (leading ++ suffix))
    | none => .error .malformed

/-- The kind of a scalar. -/
def scalarKind (tag : Option (List Char)) (plain : Bool) (text : List Char) : Kind :=
  match tag with
  | none => if plain then Kind.ofPlain text else .str
  | some tag => if tag = ['!'] then Kind.ofPlain text else Kind.ofTag tag

/-- The kind of a collection. -/
def collectionKind (tag : Option (List Char)) (usual : Kind) : Kind :=
  match tag with
  | none => usual
  | some tag => if tag = ['!'] then usual else Kind.ofTag tag

mutual

/-- Reads a node.  In a block, block collections may begin; where a sequence need
not be indented, its first dash may be next. -/
def node (block unindented : Bool) : (fuel : Nat) → Reader → Result (Nat × Reader)
  | 0, _ => .error .malformed
  | fuel + 1, r =>
    match r.peek with
    | .alias name =>
      match r.anchors.lookup name with
      | some id => .ok (id, r.skip)
      | none => .error .malformed
    | _ => do
      let (p, r) := r.properties
      let tag ← r.fullTag p
      let listKind := collectionKind tag .seq
      let mapKind := collectionKind tag .map
      match r.peek with
      | .scalar plain text => r.skip.reserve p.anchor (.scalar (scalarKind tag plain text) text)
      | .flowSequenceStart => do
        let (id, r) ← r.skip.enter p.anchor (.sequence listKind [])
        let (items, r) ← flowItems fuel true r
        return (id, r.leave id (.sequence listKind items))
      | .flowMappingStart => do
        let (id, r) ← r.skip.enter p.anchor (.mapping mapKind [])
        let (entries, r) ← flowEntries fuel true r
        return (id, r.leave id (.mapping mapKind entries))
      | other => do
        if other = .blockEntry && unindented then
          let (id, r) ← r.enter p.anchor (.sequence listKind [])
          let (items, r) ← unindentedItems fuel r
          return (id, r.leave id (.sequence listKind items))
        else if other = .blockSequenceStart && block then
          let (id, r) ← r.skip.enter p.anchor (.sequence listKind [])
          let (items, r) ← blockItems fuel r
          return (id, r.leave id (.sequence listKind items))
        else if other = .blockMappingStart && block then
          let (id, r) ← r.skip.enter p.anchor (.mapping mapKind [])
          let (entries, r) ← blockEntries fuel r
          return (id, r.leave id (.mapping mapKind entries))
        else if p.anchor.isSome || p.tag.isSome then
          r.reserve p.anchor (.scalar (scalarKind tag true []) [])
        else .error r.unexpected

/-- Reads a node, or an empty scalar where one of the given tokens is next. -/
def nodeUnless (empty : List Token) (block unindented : Bool) :
    (fuel : Nat) → Reader → Result (Nat × Reader)
  | 0, _ => .error .malformed
  | fuel + 1, r => if r.sees empty then r.emptyScalar else node block unindented fuel r

/-- Reads the items of a block sequence up to its end. -/
def blockItems : (fuel : Nat) → Reader → Result (List Nat × Reader)
  | 0, _ => .error .malformed
  | fuel + 1, r =>
    if r.peek = .blockEntry then do
      let (item, r) ← nodeUnless [.blockEntry, .blockEnd] true false fuel r.skip
      let (items, r) ← blockItems fuel r
      return (item :: items, r)
    else do
      let r ← r.expect .blockEnd
      return ([], r)

/-- Reads the items of a sequence that is not indented. -/
def unindentedItems : (fuel : Nat) → Reader → Result (List Nat × Reader)
  | 0, _ => .error .malformed
  | fuel + 1, r =>
    if r.peek = .blockEntry then do
      let (item, r) ← nodeUnless [.blockEntry, .key, .value, .blockEnd] true false fuel r.skip
      let (items, r) ← unindentedItems fuel r
      return (item :: items, r)
    else return ([], r)

/-- Reads the entries of a block mapping up to its end. -/
def blockEntries : (fuel : Nat) → Reader → Result (List (Nat × Nat) × Reader)
  | 0, _ => .error .malformed
  | fuel + 1, r =>
    if r.peek = .key then do
      let empty := [.key, .value, .blockEnd]
      let (key, r) ← nodeUnless empty true true fuel r.skip
      let (value, r) ← (if r.peek = .value then nodeUnless empty true true fuel r.skip
        else r.emptyScalar)
      let (entries, r) ← blockEntries fuel r
      return ((key, value) :: entries, r)
    else do
      let r ← r.expect .blockEnd
      return ([], r)

/-- Reads the items of a flow sequence up to its end. -/
def flowItems : (fuel : Nat) → (first : Bool) → Reader → Result (List Nat × Reader)
  | 0, _, _ => .error .malformed
  | fuel + 1, first, r =>
    if r.peek = .flowSequenceEnd then .ok ([], r.skip)
    else do
      let r ← (if first then .ok r else r.expect .flowEntry)
      if r.peek = .flowSequenceEnd then return ([], r.skip)
      else
        let (item, r) ← flowItem fuel r
        let (items, r) ← flowItems fuel false r
        return (item :: items, r)

/-- Reads an item of a flow sequence: a node, or a single entry of a mapping. -/
def flowItem : (fuel : Nat) → Reader → Result (Nat × Reader)
  | 0, _ => .error .malformed
  | fuel + 1, r =>
    if r.peek = .key then do
      let (id, r) ← r.skip.enter none (.mapping .map [])
      let (key, r) ← nodeUnless [.value, .flowEntry, .flowSequenceEnd] false false fuel r
      let (value, r) ← (if r.peek = .value then
          nodeUnless [.flowEntry, .flowSequenceEnd] false false fuel r.skip
        else r.emptyScalar)
      return (id, r.leave id (.mapping .map [(key, value)]))
    else node false false fuel r

/-- Reads the entries of a flow mapping up to its end. -/
def flowEntries : (fuel : Nat) → (first : Bool) → Reader →
    Result (List (Nat × Nat) × Reader)
  | 0, _, _ => .error .malformed
  | fuel + 1, first, r =>
    if r.peek = .flowMappingEnd then .ok ([], r.skip)
    else do
      let r ← (if first then .ok r else r.expect .flowEntry)
      if r.peek = .flowMappingEnd then return ([], r.skip)
      else
        let (key, value, r) ← flowPair fuel r
        let (entries, r) ← flowEntries fuel false r
        return ((key, value) :: entries, r)

/-- Reads an entry of a flow mapping; a key alone has an empty value. -/
def flowPair : (fuel : Nat) → Reader → Result (Nat × Nat × Reader)
  | 0, _ => .error .malformed
  | fuel + 1, r =>
    if r.peek = .key then do
      let (key, r) ← nodeUnless [.value, .flowEntry, .flowMappingEnd] false false fuel r.skip
      let (value, r) ← (if r.peek = .value then
          nodeUnless [.flowEntry, .flowMappingEnd] false false fuel r.skip
        else r.emptyScalar)
      return (key, value, r)
    else do
      let (key, r) ← node false false fuel r
      let (value, r) ← r.emptyScalar
      return (key, value, r)

end

/-! ## Documents -/

/-- Reads directives: at most one version, and each handle once. -/
def directives : (fuel : Nat) → (versionSeen : Bool) →
    (read : List (List Char × List Char)) → Reader → Result (List (List Char × List Char) × Reader)
  | 0, _, _, _ => .error .malformed
  | fuel + 1, versionSeen, read, r =>
    match r.peek with
    | .versionDirective major =>
      if versionSeen || major ≠ 1 then .error .malformed
      else directives fuel true read r.skip
    | .tagDirective handle leading =>
      if read.any fun h => h.1 = handle then .error .malformed
      else directives fuel versionSeen ((handle, leading) :: read) r.skip
    | .otherDirective => directives fuel versionSeen read r.skip
    | _ => .ok (read, r)

/-- The reader behind all markers of a document's end. -/
def skipEnds (r : Reader) : Reader :=
  { r with tokens := r.tokens.dropWhile (· = .documentEnd) }

/-- Reads the end of the only document. -/
def finish (r : Reader) : Result Unit :=
  let r := r.skipEnds
  if r.peek = .streamEnd then .ok () else .error r.unexpected

/-- Whether a directive is next. -/
def seesDirective (r : Reader) : Bool :=
  match r.peek with
  | .versionDirective _ => true
  | .tagDirective _ _ => true
  | .otherDirective => true
  | _ => false

/-- A number of steps that suffices to read the tokens. -/
def enough (r : Reader) : Nat :=
  4 * r.tokens.length + 8

/-- Reads the only document, if there is one: the number of its root. -/
def document (r : Reader) : Result (Option Nat × Graph) :=
  if r.peek = .streamEnd then .ok (none, r.nodes)
  else if r.seesDirective || r.peek = .documentStart then do
    let (read, r) ← directives r.enough false [] r
    let r ← { r with handles := read ++ standardHandles }.expect .documentStart
    let (root, r) ←
      (if r.seesDirective || r.sees [.documentStart, .documentEnd, .streamEnd] then
        r.emptyScalar
      else node true false r.enough r)
    r.finish
    return (some root, r.nodes)
  else do
    let (root, r) ← node true false r.enough r
    r.finish
    return (some root, r.nodes)

end Reader

end Tweaks.Yaml
