import Tweaks.Document
import Tweaks.Yaml.Merge
import Tweaks.Yaml.Scalar

/-!
# Contents of YAML nodes

What each node of a document holds.  Nodes are looked at in the order of their
depth, those of one depth as they are written, so that the first fault in this
order decides.  Keys have to be scalars, and of equal keys the last value stays
at the first place.
-/

namespace Tweaks.Yaml

/-- What a node holds.  The parts of collections are given by number, keys by
value. -/
inductive Content where
  | leaf (value : Document)
  | list (items : List Nat)
  | mapping (entries : List (Document × Nat))
  | set (items : List Document)
  | pairs (entries : List (Nat × Nat))
  /-- A collection that is not looked into yet. -/
  | unopened
deriving Inhabited

/-- The nodes of a document, what is known of their contents, and the collections among them
in the order in which they are met. -/
structure Contents where
  graph : Graph
  contents : Array (Option Content)
  met : Array Nat

/-- An entry of a mapping whose key is known. -/
structure KeyedEntry where
  id : Nat
  key : Document
  value : Nat

/-- Entries with one more: an equal key keeps its place and gets the new value. -/
def setEntry (entries : List KeyedEntry) (entry : KeyedEntry) : List KeyedEntry :=
  match entries with
  | [] => [entry]
  | other :: rest =>
    if other.id = entry.id || other.key.sameKey entry.key then
      { other with value := entry.value } :: rest
    else other :: setEntry rest entry

/-- What a node holds as a document, if the documents of its parts are known. -/
def Content.document? (part : Nat → Option Document) : Content → Option Document
  | .leaf value => some value
  | .list items => (items.mapM part).map .list
  | .mapping entries => do
    return .mapping (← entries.mapM fun (key, value) => do return (key, ← part value))
  | .set items => some (.set items)
  | .pairs entries => do
    return .list (← entries.mapM fun (key, value) => do
      return .pair (← part key) (← part value))
  | .unopened => none

/-- A list or mapping, where it is not gone through any more. -/
def Content.stop : Content → Document
  | .mapping _ => .endlessMapping
  | _ => .endlessList

namespace Contents

/-- Whether a kind is that of a collection. -/
def isCollectionKind (kind : Kind) : Bool :=
  kind = .seq || kind = .map || kind = .set || kind = .omap || kind = .pairs

/-- Whether a kind is that of a scalar. -/
def isScalarKind (kind : Kind) : Bool :=
  kind = .null || kind = .bool || kind = .int || kind = .float || kind = .binary ||
    kind = .timestamp || kind = .str

/-- The text of a scalar, or of a mapping's default entry. -/
def scalarText (g : Graph) : (fuel : Nat) → Nat → Result (List Char)
  | 0, _ => .error .endless
  | fuel + 1, id =>
    match g[id]? with
    | some (.scalar _ text) => .ok text
    | some (.mapping _ entries) =>
      match entries.find? fun e => g.kindOf e.1 = .default with
      | some (_, value) => scalarText g fuel value
      | none => .error .malformed
    | _ => .error .malformed

/-- What is known of a node. -/
def known? (s : Contents) (id : Nat) : Option Content :=
  (s.contents[id]?).join

/-- Notes what a node holds. -/
def note (s : Contents) (id : Nat) (content : Content) : Contents :=
  { s with contents := s.contents.setIfInBounds id (some content) }

/-- Notes a collection that is to be looked into. -/
def await (s : Contents) (id : Nat) : Contents :=
  { s with contents := s.contents.setIfInBounds id (some .unopened), met := s.met.push id }

/-- Whether a node is a mapping. -/
def isMapping (g : Graph) (id : Nat) : Bool :=
  (g.entries? id).isSome

/-- A number by which the value of a scalar is known.  The values of the word for what is no
number are all one. -/
def identity (g : Graph) (id : Nat) : Nat :=
  match scalarText g (g.size + 1) id with
  | .ok text =>
    match signed (text.map Char.toLower) with
    | .ok (_, body) =>
      if g.kindOf id = .float && body = ".nan".toList then g.size else id
    | .error _ => id
  | .error _ => id

/-- Looks at a node: a scalar's value is read, a collection waits. -/
def visit (s : Contents) (id : Nat) : Result Contents :=
  match s.known? id with
  | some _ => .ok s
  | none =>
    let kind := s.graph.kindOf id
    if isScalarKind kind then do
      let text ← scalarText s.graph (s.graph.size + 1) id
      if kind = .timestamp && isMapping s.graph id then .error .wrongShape
      else
        let value ← scalarValue kind text
        return s.note id (.leaf value)
    else if isCollectionKind kind then
      .ok (s.await id)
    else .error .malformed

/-- Looks at nodes in order. -/
def visitAll (s : Contents) : List Nat → Result Contents
  | [] => .ok s
  | id :: ids => do
    let s ← s.visit id
    s.visitAll ids

/-- Looks at the keys and values of entries in order.  Keys have to be scalars. -/
def visitEntries (s : Contents) (read : List KeyedEntry) :
    List (Nat × Nat) → Result (List KeyedEntry × Contents)
  | [] => .ok (read, s)
  | (key, value) :: entries => do
    let s ← s.visit key
    match s.known? key with
    | some (.leaf d) => do
      let s ← s.visit value
      s.visitEntries (setEntry read ⟨identity s.graph key, d, value⟩) entries
    | _ => .error .malformed

/-- The single entries of the mappings in a list. -/
def visitPairs (s : Contents) : List Nat → Result (List (Nat × Nat) × Contents)
  | [] => .ok ([], s)
  | id :: ids =>
    match s.graph.entries? id with
    | some [(key, value)] => do
      let s ← s.visit key
      let s ← s.visit value
      let (others, s) ← s.visitPairs ids
      return ((key, value) :: others, s)
    | _ => .error .malformed

/-- Looks into a mapping, after replacing its marked entries. -/
def openMapping (s : Contents) (id : Nat) : Result (List KeyedEntry × Contents) :=
  match s.graph.entries? id with
  | none => .error .malformed
  | some _ => do
    let graph ← s.graph.merge id
    { s with graph }.visitEntries [] ((graph.entries? id).getD [])

/-- Looks into a collection. -/
def openNode (s : Contents) (id : Nat) : Result Contents :=
  match s.graph.kindOf id with
  | .map => do
    let (entries, s) ← s.openMapping id
    return s.note id (.mapping (entries.map fun e => (e.key, e.value)))
  | .set => do
    let (entries, s) ← s.openMapping id
    return s.note id (.set (entries.map KeyedEntry.key))
  | kind =>
    match s.graph[id]? with
    | some (.sequence _ items) =>
      if kind = .seq then do
        let s ← s.visitAll items
        return s.note id (.list items)
      else do
        let (pairs, s) ← s.visitPairs items
        return s.note id (.pairs pairs)
    | _ => .error .malformed

/-- Looks into all collections from the one with the given place on, and into those that are
met there. -/
def openAll : (fuel : Nat) → (place : Nat) → Contents → Result Contents
  | 0, _, s => .ok s
  | fuel + 1, place, s =>
    match s.met[place]? with
    | none => .ok s
    | some id => do
      let s ← s.openNode id
      openAll fuel (place + 1) s

/-- The contents of all nodes that the root leads to. -/
def ofGraph (graph : Graph) (root : Nat) : Result Contents := do
  let s : Contents := ⟨graph, Array.replicate graph.size none, #[]⟩
  let s ← s.visit root
  openAll (graph.size + 1) 0 s

/-! ## Trees -/

/-- The documents of nodes, as far as they are known. -/
abbrev Known := Array (Option Document)

/-- What is known of the documents of nodes after one more look at each of them, the last one
first: a document is known as soon as all its parts are. -/
def settleOnce (s : Contents) (known : Known) : Known :=
  (List.range known.size).foldr (fun id known =>
    match (known[id]?).join with
    | some _ => known
    | none => known.setIfInBounds id
      ((s.known? id).bind fun content => content.document? fun part => (known[part]?).join))
    known

/-- What is known of the documents of nodes once looking again shows nothing new. -/
def settle (s : Contents) : (fuel : Nat) → Known → Known
  | 0, known => known
  | fuel + 1, known =>
    let count (known : Known) : Nat := known.foldl (fun n d => if d.isSome then n + 1 else n) 0
    let next := s.settleOnce known
    if count next = count known then known else s.settle fuel next

/-- A node as it is seen from itself, or from the last of the nodes that `path` holds: what
encloses it is not gone through again. -/
def view (s : Contents) (known : Known) : (fuel : Nat) → (path : List Nat) → Nat → Document
  | 0, _, _ => .null
  | fuel + 1, path, id =>
    match (known[id]?).join, s.known? id with
    | some d, _ => d
    | none, none => .null
    | none, some content =>
      if path.contains id then content.stop
      else (content.document? fun part => some (s.view known fuel (id :: path) part)).getD .null

/-- The document that a node stands for.  `path` holds the nodes around it; a
collection that stands within itself is spelled out once more. -/
def document (s : Contents) (known : Known) (views : Array Document) :
    (fuel : Nat) → (path : List Nat) → Nat → Document
  | 0, _, _ => .null
  | fuel + 1, path, id =>
    match (known[id]?).join, s.known? id with
    | some d, _ => d
    | none, none => .null
    | none, some content =>
      .looped (views.getD id .null)
        (if 2 ≤ path.count id then content.stop
        else (content.document? fun part =>
          some (s.document known views fuel (id :: path) part)).getD .null)

/-- The document of a node. -/
def tree (s : Contents) (root : Nat) : Document :=
  let size := s.graph.size
  let known := s.settle (size + 1) (Array.replicate size none)
  let views := (Array.range size).map fun id =>
    if (known[id]?).join.isSome then .null else s.view known (size + 1) [] id
  s.document known views (2 * size + 2) [] root

end Contents

end Tweaks.Yaml
