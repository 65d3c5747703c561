import Tweaks.Yaml.Graph

/-!
# Merged entries

An entry whose key is the mark `<<` stands for the entries of the mapping that
is its value, or of the mappings in a list, of which an earlier one goes before
a later one.  They precede the mapping's own entries, which therefore win.
-/

namespace Tweaks.Yaml.Graph

/-- The entries of a node that is a mapping. -/
def entries? (g : Graph) (id : Nat) : Option (List (Nat × Nat)) :=
  match g[id]? with
  | some (.mapping _ entries) => some entries
  | _ => none

/-- Gives a mapping other entries. -/
def setEntries (g : Graph) (id : Nat) (entries : List (Nat × Nat)) : Graph :=
  match g[id]? with
  | some (.mapping kind _) => g.setIfInBounds id (.mapping kind entries)
  | _ => g

/-- The kind of a node. -/
def kindOf (g : Graph) (id : Nat) : Kind :=
  match g[id]? with
  | some node => node.kind
  | none => .other

/-- Lets the mark of a default entry count as a text. -/
def asText (g : Graph) (id : Nat) : Graph :=
  match g[id]? with
  | some (.scalar _ text) => g.setIfInBounds id (.scalar .str text)
  | some (.sequence _ items) => g.setIfInBounds id (.sequence .str items)
  | some (.mapping _ entries) => g.setIfInBounds id (.mapping .str entries)
  | none => g

mutual

/-- Replaces the marked entries of a mapping from the one with the given index
on.  `merged` holds the entries that earlier marks stand for. -/
def mergeFrom : (fuel : Nat) → (index : Nat) → (merged : List (Nat × Nat)) → Nat →
    Graph → Result Graph
  | 0, _, _, _, _ => .error .malformed
  | fuel + 1, index, merged, id, g =>
    match g.entries? id with
    | none => .error .malformed
    | some entries =>
      match entries[index]? with
      | none => .ok (if merged.isEmpty then g else g.setEntries id (merged ++ entries))
      | some (key, value) =>
        match g.kindOf key with
        | .merge => do
          let g := g.setEntries id (entries.eraseIdx index)
          let (more, g) ← mergedEntries fuel value g
          mergeFrom fuel index (merged ++ more) id g
        | .default => mergeFrom fuel (index + 1) merged id (g.asText key)
        | _ => mergeFrom fuel (index + 1) merged id g

/-- The entries that a mark with the given value stands for. -/
def mergedEntries : (fuel : Nat) → Nat → Graph → Result (List (Nat × Nat) × Graph)
  | 0, _, _ => .error .malformed
  | fuel + 1, value, g =>
    match g[value]? with
    | some (.mapping _ _) => do
      let g ← mergeFrom fuel 0 [] value g
      return ((g.entries? value).getD [], g)
    | some (.sequence _ items) => do
      let (parts, g) ← mergedItems fuel items g
      return (parts.reverse.flatten, g)
    | _ => .error .malformed

/-- The entries of each mapping in a list. -/
def mergedItems : (fuel : Nat) → List Nat → Graph → Result (List (List (Nat × Nat)) × Graph)
  | 0, _, _ => .error .malformed
  | _ + 1, [], g => .ok ([], g)
  | fuel + 1, item :: items, g =>
    match g[item]? with
    | some (.mapping _ _) => do
      let g ← mergeFrom fuel 0 [] item g
      let (parts, g) ← mergedItems fuel items g
      return ((g.entries? item).getD [] :: parts, g)
    | _ => .error .malformed

end

/-- The number of nodes and of their parts. -/
def weight (g : Graph) : Nat :=
  g.foldl (fun n node => n + match node with
    | .scalar _ _ => 1
    | .sequence _ items => 1 + items.length
    | .mapping _ entries => 1 + entries.length) 0

/-- Whether an entry is marked. -/
def isMarked (g : Graph) (entry : Nat × Nat) : Bool :=
  g.kindOf entry.1 = .merge || g.kindOf entry.1 = .default

/-- Replaces the marked entries of a mapping. -/
def merge (g : Graph) (id : Nat) : Result Graph :=
  if ((g.entries? id).getD []).any g.isMarked then
    mergeFrom ((g.weight + 4) * (g.weight + 4)) 0 [] id g
  else .ok g

end Tweaks.Yaml.Graph
