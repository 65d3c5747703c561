import Mathlib.Data.Fintype.Pigeonhole
import Mathlib.Logic.Relation
import Tweaks.Proofs.Gathering
import Tweaks.Yaml.Content

/-!
# Faults of the values in a text

Nodes are given their values.  Apart from what is not well formed, that goes wrong at scalars:
one has a kind that its text does not fit, or the shape of a value that there is not.  The text
of a scalar may be that of a mapping's default entry, and then it may be spelled by itself, or
be a mapping where only a text will do.

On the way marked entries are replaced by those that they stand for.  That changes the entries
of mappings only, and lets the mark of a default entry count as a text.

Main results:

- `Merges.succ`, `derives_merge`: what replacing entries does to a graph.
- `exists_cycle_of_path`: a text that has no end leads back to itself.
- `fills_visit`: one node is given its value, or there is none for a reason.
- `stops_of_ofGraph`: why nodes have no values.
-/

namespace Tweaks.Yaml

open Stepwise

/-! ## Replaced entries -/

/-- The text of a scalar. -/
def Node.text? : Node → Option (List Char)
  | .scalar _ text => some text
  | _ => none

/-- Whether a node is a mapping. -/
def Node.isMapping : Node → Bool
  | .mapping _ _ => true
  | _ => false

/-- A node before and after entries are replaced. -/
structure Node.Becomes (node node' : Node) : Prop where
  kind : node'.kind = node.kind ∨ node.kind = .default ∧ node'.kind = .str
  text : node'.text? = node.text?
  mapping : node'.isMapping = node.isMapping

/-- A node that stays as it is. -/
theorem Node.Becomes.refl (node : Node) : node.Becomes node :=
  ⟨Or.inl rfl, rfl, rfl⟩

/-- A node that is changed twice. -/
theorem Node.Becomes.trans {node node' node'' : Node} (h : node.Becomes node')
    (h' : node'.Becomes node'') : node.Becomes node'' where
  kind := by
    rcases h'.kind with heq | ⟨hdefault, hstr⟩
    · rw [heq]
      exact h.kind
    · rcases h.kind with heq | ⟨-, hstr'⟩
      · exact Or.inr ⟨heq ▸ hdefault, hstr⟩
      · rw [hstr'] at hdefault
        cases hdefault
  text := h'.text.trans h.text
  mapping := h'.mapping.trans h.mapping

namespace Graph

variable {g g' g'' : Graph}

/-- One graph comes from another by replacing entries. -/
def Derives (g g' : Graph) : Prop :=
  ∀ (id : Nat) (node' : Node), g'[id]? = some node' →
    ∃ node : Node, g[id]? = some node ∧ node.Becomes node'

/-- A graph that stays as it is. -/
theorem Derives.refl (g : Graph) : Derives g g :=
  fun _ node h => ⟨node, h, .refl node⟩

/-- A graph that is changed twice. -/
theorem Derives.trans (h : Derives g g') (h' : Derives g' g'') : Derives g g'' := by
  intro id node'' hnode''
  obtain ⟨node', hnode', hbecomes'⟩ := h' id node'' hnode''
  obtain ⟨node, hnode, hbecomes⟩ := h id node' hnode'
  exact ⟨node, hnode, hbecomes.trans hbecomes'⟩

/-- A graph with another node in the place of one. -/
theorem derives_set {id : Nat} {node node' : Node} (hnode : g[id]? = some node)
    (h : node.Becomes node') : Derives g (g.setIfInBounds id node') := by
  intro other node'' hother
  rw [Array.getElem?_setIfInBounds] at hother
  split at hother
  · next heq =>
    subst heq
    split at hother
    · cases hother
      exact ⟨node, hnode, h⟩
    · cases hother
  · exact ⟨node'', hother, .refl node''⟩

/-- Other entries. -/
theorem derives_setEntries (g : Graph) (id : Nat) (entries : List (Nat × Nat)) :
    Derives g (g.setEntries id entries) := by
  rw [setEntries]
  split
  · next hnode => exact derives_set hnode ⟨Or.inl rfl, rfl, rfl⟩
  · exact .refl g

/-- The mark of a default entry as a text. -/
theorem derives_asText {id : Nat} (h : g.kindOf id = .default) : Derives g (g.asText id) := by
  have hkind : ∀ node, g[id]? = some node → node.kind = .default := by
    intro node hnode
    rw [kindOf, hnode] at h
    exact h
  rw [asText]
  split
  · next hnode => exact derives_set hnode ⟨Or.inr ⟨hkind _ hnode, rfl⟩, rfl, rfl⟩
  · next hnode => exact derives_set hnode ⟨Or.inr ⟨hkind _ hnode, rfl⟩, rfl, rfl⟩
  · next hnode => exact derives_set hnode ⟨Or.inr ⟨hkind _ hnode, rfl⟩, rfl, rfl⟩
  · exact .refl g

/-- Replacing entries is not well formed, or comes to a graph with other entries. -/
structure Merges (fuel : Nat) : Prop where
  mergeFrom (index : Nat) (merged : List (Nat × Nat)) (id : Nat) (g : Graph) :
    Meets (· = Fault.malformed) (Derives g) (mergeFrom fuel index merged id g)
  mergedEntries (value : Nat) (g : Graph) :
    Meets (· = Fault.malformed) (fun read => Derives g read.2) (mergedEntries fuel value g)
  mergedItems (items : List Nat) (g : Graph) :
    Meets (· = Fault.malformed) (fun read => Derives g read.2) (mergedItems fuel items g)

/-- Without a step nothing is replaced. -/
theorem Merges.zero : Merges 0 where
  mergeFrom _ _ _ _ := rfl
  mergedEntries _ _ := rfl
  mergedItems _ _ := rfl

section Step

variable {fuel : Nat}

/-- A mapping from one of its entries on. -/
theorem Merges.mergeFrom_succ (ih : Merges fuel) (index : Nat) (merged : List (Nat × Nat))
    (id : Nat) (g : Graph) :
    Meets (· = Fault.malformed) (Derives g) (Graph.mergeFrom (fuel + 1) index merged id g) := by
  have hafter : ∀ {g' : Graph} (index : Nat) (merged : List (Nat × Nat)), Derives g g' →
      Meets (· = Fault.malformed) (Derives g) (Graph.mergeFrom fuel index merged id g') :=
    fun index merged hg' => (ih.mergeFrom index merged id _).imp (fun _ hcause => hcause)
      fun _ hg'' => hg'.trans hg''
  rw [Graph.mergeFrom]
  split
  · rfl
  · next entries _ =>
    split
    · split
      · exact Derives.refl g
      · exact derives_setEntries g id _
    · split
      · have hset := derives_setEntries g id (entries.eraseIdx index)
        refine (ih.mergedEntries _ _).bind fun read hread => ?_
        exact hafter _ _ (hset.trans hread)
      · next hkind => exact hafter _ _ (derives_asText hkind)
      · exact hafter _ _ (.refl g)

/-- The entries that a mark stands for. -/
theorem Merges.mergedEntries_succ (ih : Merges fuel) (value : Nat) (g : Graph) :
    Meets (· = Fault.malformed) (fun read => Derives g read.2)
      (Graph.mergedEntries (fuel + 1) value g) := by
  rw [Graph.mergedEntries]
  split
  · exact (ih.mergeFrom _ _ _ g).bind fun _ hg' => hg'
  · exact (ih.mergedItems _ g).bind fun _ hg' => hg'
  · rfl

/-- The entries of mappings in a list. -/
theorem Merges.mergedItems_succ (ih : Merges fuel) (items : List Nat) (g : Graph) :
    Meets (· = Fault.malformed) (fun read => Derives g read.2)
      (Graph.mergedItems (fuel + 1) items g) := by
  cases items with
  | nil => exact Derives.refl g
  | cons item items =>
    rw [Graph.mergedItems]
    split
    · refine (ih.mergeFrom _ _ _ g).bind fun g' hg' => ?_
      exact (ih.mergedItems items g').bind fun _ hg'' => hg'.trans hg''
    · rfl

/-- With one step more the same holds. -/
theorem Merges.succ (ih : Merges fuel) : Merges (fuel + 1) where
  mergeFrom := ih.mergeFrom_succ
  mergedEntries := ih.mergedEntries_succ
  mergedItems := ih.mergedItems_succ

end Step

/-- Replacing the marked entries of a mapping. -/
theorem derives_merge (g : Graph) (id : Nat) :
    Meets (· = Fault.malformed) (Derives g) (g.merge id) := by
  have hmerges : ∀ fuel, Merges fuel := by
    intro fuel
    induction fuel with
    | zero => exact .zero
    | succ fuel ih => exact ih.succ
  rw [merge]
  exact ((hmerges _).mergeFrom 0 [] id g).ite (.refl g)

end Graph

/-! ## Texts of nodes -/

namespace Graph

variable {g g' : Graph} {id : Nat}

/-- The text of a mapping is that of its default entry. -/
def Defers (g : Graph) (id value : Nat) : Prop :=
  ∃ kind entries key, g[id]? = some (.mapping kind entries) ∧
    entries.find? (fun e => g.kindOf e.1 = .default) = some (key, value)

/-- What defers to another node is one of the nodes. -/
theorem Defers.lt_size {value : Nat} (h : g.Defers id value) : id < g.size := by
  obtain ⟨kind, entries, key, hnode, -⟩ := h
  by_contra hge
  rw [Array.getElem?_eq_none (Nat.le_of_not_lt hge)] at hnode
  cases hnode

/-- A node's text is its own, or it is a mapping with the text of a scalar. -/
theorem exists_scalar_of_scalarText {fuel : Nat} {text : List Char}
    (h : Contents.scalarText g fuel id = .ok text) :
    (∃ kind, g[id]? = some (.scalar kind text)) ∨
      (∃ kind entries, g[id]? = some (.mapping kind entries)) ∧
        ∃ (id' : Nat) (kind : Kind), g[id']? = some (.scalar kind text) := by
  induction fuel generalizing id with
  | zero => cases h
  | succ fuel ih =>
    rw [Contents.scalarText] at h
    split at h
    · next hnode =>
      cases h
      exact Or.inl ⟨_, hnode⟩
    · next hnode =>
      split at h
      · refine Or.inr ⟨⟨_, _, hnode⟩, ?_⟩
        rcases ih h with ⟨kind, hscalar⟩ | ⟨-, hscalar⟩
        · exact ⟨_, kind, hscalar⟩
        · exact hscalar
      · cases h
    · cases h

/-- Where a node has no text, it is not well formed, or one node defers to the next for as long
as one looks. -/
theorem exists_path_of_scalarText {fuel : Nat} {f : Fault}
    (h : Contents.scalarText g fuel id = .error f) :
    f = .malformed ∨ f = .endless ∧
      ∃ path : Nat → Nat, path 0 = id ∧ ∀ i < fuel, g.Defers (path i) (path (i + 1)) := by
  induction fuel generalizing id with
  | zero =>
    cases h
    exact Or.inr ⟨rfl, fun _ => id, rfl, fun i hi => absurd hi (Nat.not_lt_zero i)⟩
  | succ fuel ih =>
    rw [Contents.scalarText] at h
    split at h
    · cases h
    · next hnode =>
      split at h
      · next key value hvalue =>
        rcases ih h with hmalformed | ⟨hendless, path, hstart, hpath⟩
        · exact Or.inl hmalformed
        · refine Or.inr ⟨hendless, fun i => if i = 0 then id else path (i - 1), rfl, ?_⟩
          intro i hi
          cases i with
          | zero => exact ⟨_, _, key, hnode, by simpa [hstart] using hvalue⟩
          | succ i => exact hpath i (by omega)
      · cases h
        exact Or.inl rfl
    · cases h
      exact Or.inl rfl

/-- Some steps along a path lead from one of its nodes to a later one. -/
theorem transGen_of_path {path : Nat → Nat} {n : Nat}
    (h : ∀ i < n, g.Defers (path i) (path (i + 1))) {i j : Nat} (hij : i < j) (hj : j ≤ n) :
    Relation.TransGen g.Defers (path i) (path j) := by
  induction j with
  | zero => exact absurd hij (Nat.not_lt_zero i)
  | succ j ih =>
    have hlast := h j (by omega)
    rcases Nat.lt_or_eq_of_le (Nat.le_of_lt_succ hij) with hlt | rfl
    · exact (ih hlt (by omega)).tail hlast
    · exact .single hlast

/-- A text that has no end leads back to itself: there are only so many nodes. -/
theorem exists_cycle_of_path {path : Nat → Nat}
    (h : ∀ i < g.size + 1, g.Defers (path i) (path (i + 1))) :
    ∃ id, Relation.TransGen g.Defers id id := by
  obtain ⟨i, j, hne, hsame⟩ := Fintype.exists_ne_map_eq_of_card_lt
    (fun i : Fin (g.size + 1) => (⟨path i, (h i i.isLt).lt_size⟩ : Fin g.size)) (by simp)
  have hpath : path i = path j := congrArg Fin.val hsame
  rcases Nat.lt_or_gt_of_ne fun heq => hne (Fin.ext heq) with hlt | hgt
  · refine ⟨path j, ?_⟩
    have hcycle := transGen_of_path h hlt (by omega)
    rwa [hpath] at hcycle
  · refine ⟨path i, ?_⟩
    have hcycle := transGen_of_path h hgt (by omega)
    rwa [← hpath] at hcycle

/-! ## Values of nodes -/

/-- Why the nodes of a graph have no values, where all is well formed. -/
inductive Valueless (g : Graph) : Fault → Prop
  /-- A scalar has a kind that its text does not fit. -/
  | scalar {id : Nat} {kind : Kind} {text : List Char} {f : Fault}
      (node : g[id]? = some (.scalar kind text)) (value : scalarValue kind text = .error f) :
      Valueless g f
  /-- A mapping with the text of a scalar has a kind that the text does not fit. -/
  | mapping {id id' : Nat} {kind kind' : Kind} {entries : List (Nat × Nat)} {text : List Char}
      {f : Fault} (node : g[id]? = some (.mapping kind entries))
      (spelled : g[id']? = some (.scalar kind' text)) (value : scalarValue kind text = .error f) :
      Valueless g f
  /-- A mapping is to be a moment. -/
  | moment {id : Nat} {entries : List (Nat × Nat)}
      (node : g[id]? = some (.mapping .timestamp entries)) : Valueless g .wrongShape
  /-- Once entries are replaced, a mapping has its own text. -/
  | endless {g' : Graph} {id : Nat} (derived : Derives g g')
      (cycle : Relation.TransGen g'.Defers id id) : Valueless g .endless

/-- Why there is no document of a graph. -/
def Stops (g : Graph) (f : Fault) : Prop :=
  f = .malformed ∨ Valueless g f

/-- A scalar after entries are replaced was one before. -/
theorem Derives.scalar (h : Derives g g') {kind : Kind} {text : List Char}
    (hnode : g'[id]? = some (.scalar kind text)) :
    ∃ kind', g[id]? = some (.scalar kind' text) ∧
      (kind = kind' ∨ kind' = .default ∧ kind = .str) := by
  obtain ⟨node, hold, hbecomes⟩ := h id _ hnode
  have htext := hbecomes.text
  cases node with
  | scalar kind' text' =>
    cases htext
    exact ⟨kind', hold, hbecomes.kind⟩
  | sequence => cases htext
  | mapping => cases htext

/-- A mapping after entries are replaced was one before. -/
theorem Derives.mapping (h : Derives g g') {kind : Kind} {entries : List (Nat × Nat)}
    (hnode : g'[id]? = some (.mapping kind entries)) :
    ∃ kind' entries', g[id]? = some (.mapping kind' entries') ∧
      (kind = kind' ∨ kind' = .default ∧ kind = .str) := by
  obtain ⟨node, hold, hbecomes⟩ := h id _ hnode
  have hmapping := hbecomes.mapping
  cases node with
  | mapping kind' entries' => exact ⟨kind', entries', hold, hbecomes.kind⟩
  | scalar => cases hmapping
  | sequence => cases hmapping

/-- Where a text does not fit the kind of a node, it does not fit the one that the node had
before entries were replaced. -/
theorem valueless_of_scalarValue (h : Derives g g') {fuel : Nat} {text : List Char} {f : Fault}
    (htext : Contents.scalarText g' fuel id = .ok text)
    (hvalue : scalarValue (g'.kindOf id) text = .error f) : Valueless g f := by
  rcases exists_scalar_of_scalarText htext with
    ⟨kind, hnode⟩ | ⟨⟨kind, entries, hnode⟩, id', kind', hscalar⟩
  · rw [kindOf, hnode] at hvalue
    obtain ⟨old, hold, rfl | ⟨-, rfl⟩⟩ := h.scalar hnode
    · exact .scalar hold hvalue
    · cases hvalue
  · rw [kindOf, hnode] at hvalue
    obtain ⟨kind'', hspelled, -⟩ := h.scalar hscalar
    obtain ⟨old, entries', hold, rfl | ⟨-, rfl⟩⟩ := h.mapping hnode
    · exact .mapping hold hspelled hvalue
    · cases hvalue

/-- Where the text of a node cannot be told, that is for a reason. -/
theorem stops_of_scalarText (h : Derives g g') {f : Fault}
    (htext : Contents.scalarText g' (g'.size + 1) id = .error f) : Stops g f := by
  rcases exists_path_of_scalarText htext with rfl | ⟨rfl, path, -, hpath⟩
  · exact Or.inl rfl
  · obtain ⟨id, hcycle⟩ := exists_cycle_of_path hpath
    exact Or.inr (.endless h hcycle)

/-- A mapping that is to be a moment was to be one before entries were replaced. -/
theorem valueless_of_moment (h : Derives g g') (hkind : g'.kindOf id = .timestamp)
    (hmapping : Contents.isMapping g' id = true) : Valueless g .wrongShape := by
  rw [Contents.isMapping, entries?] at hmapping
  split at hmapping
  · next kind entries hnode =>
    rw [kindOf, hnode] at hkind
    obtain ⟨old, entries', hold, heq | ⟨-, heq⟩⟩ := h.mapping hnode
    · rw [← heq, show kind = .timestamp from hkind] at hold
      exact .moment hold
    · rw [heq] at hkind
      cases hkind
  · cases hmapping

end Graph

/-! ## Contents -/

namespace Contents

open Yaml.Graph

variable {g : Graph} {s : Contents}

/-- Giving nodes their values stops for a reason, or goes on with entries replaced. -/
abbrev Fills (g : Graph) (result : Result Contents) : Prop :=
  Meets (Stops g) (fun s => Derives g s.graph) result

/-- What is not well formed. -/
theorem stops_malformed {α : Type} {good : α → Prop} :
    Meets (Stops g) good (.error .malformed) :=
  Or.inl rfl

/-- One node is given its value, or there is none for a reason. -/
theorem fills_visit (h : Derives g s.graph) (id : Nat) : Fills g (s.visit id) := by
  rw [visit]
  split
  · exact h
  · dsimp only
    split
    · cases htext : scalarText s.graph (s.graph.size + 1) id with
      | error f => exact stops_of_scalarText h htext
      | ok text =>
        change Fills g (if _ then _ else _)
        split
        · next hmoment =>
          rw [Bool.and_eq_true, decide_eq_true_eq] at hmoment
          exact Or.inr (valueless_of_moment h hmoment.1 hmoment.2)
        · cases hvalue : scalarValue (s.graph.kindOf id) text with
          | error f => exact Or.inr (valueless_of_scalarValue h htext hvalue)
          | ok value => exact h
    · split
      · exact h
      · exact stops_malformed

/-- Nodes are given their values in order. -/
theorem fills_visitAll (h : Derives g s.graph) (ids : List Nat) : Fills g (s.visitAll ids) := by
  induction ids generalizing s with
  | nil => exact h
  | cons id ids ih =>
    rw [visitAll]
    exact (fills_visit h id).bind fun s hs => ih hs

/-- Keys and values of entries. -/
theorem meets_visitEntries (h : Derives g s.graph) (read : List KeyedEntry)
    (entries : List (Nat × Nat)) :
    Meets (Stops g) (fun read => Derives g read.2.graph) (s.visitEntries read entries) := by
  induction entries generalizing s read with
  | nil => exact h
  | cons entry entries ih =>
    rw [visitEntries]
    refine (fills_visit h entry.1).bind fun s hs => ?_
    split
    · exact (fills_visit hs entry.2).bind fun s hs => ih hs _
    · exact stops_malformed

/-- Single entries of mappings in a list. -/
theorem meets_visitPairs (h : Derives g s.graph) (ids : List Nat) :
    Meets (Stops g) (fun read => Derives g read.2.graph) (s.visitPairs ids) := by
  induction ids generalizing s with
  | nil => exact h
  | cons id ids ih =>
    rw [visitPairs]
    split
    · refine (fills_visit h _).bind fun s hs => ?_
      refine (fills_visit hs _).bind fun s hs => ?_
      exact (ih hs).bind fun _ hread => hread
    · exact stops_malformed

/-- Mappings. -/
theorem meets_openMapping (h : Derives g s.graph) (id : Nat) :
    Meets (Stops g) (fun read => Derives g read.2.graph) (s.openMapping id) := by
  rw [openMapping]
  split
  · exact stops_malformed
  · have hmerge : Meets (Stops g) (Derives g) (s.graph.merge id) :=
      (derives_merge s.graph id).imp (fun _ hcause => Or.inl hcause) fun _ hg' => h.trans hg'
    refine hmerge.bind fun g' hg' => ?_
    exact meets_visitEntries hg' _ _

/-- Collections. -/
theorem fills_openNode (h : Derives g s.graph) (id : Nat) : Fills g (s.openNode id) := by
  rw [openNode]
  split
  · exact (meets_openMapping h id).bind fun _ hread => hread
  · exact (meets_openMapping h id).bind fun _ hread => hread
  · split
    · split
      · exact (fills_visitAll h _).bind fun _ hs => hs
      · exact (meets_visitPairs h _).bind fun _ hread => hread
    · exact stops_malformed

/-- All collections that are met. -/
theorem fills_openAll (fuel place : Nat) (h : Derives g s.graph) :
    Fills g (openAll fuel place s) := by
  induction fuel generalizing place s with
  | zero => exact h
  | succ fuel ih =>
    rw [openAll]
    split
    · exact h
    · exact (fills_openNode h _).bind fun s hs => ih (place + 1) hs

/-- Why there is no document of a graph. -/
theorem stops_of_ofGraph {root : Nat} {f : Fault} (h : ofGraph g root = .error f) : Stops g f := by
  have hfills : Fills g (ofGraph g root) := by
    rw [ofGraph]
    refine (fills_visit (Derives.refl g) root).bind fun s hs => ?_
    exact fills_openAll _ _ hs
  rw [h] at hfills
  exact hfills

end Contents

end Tweaks.Yaml
