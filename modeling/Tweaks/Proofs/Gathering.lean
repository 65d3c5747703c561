import Mathlib.Data.List.Infix
import Tweaks.Proofs.Scanning
import Tweaks.Yaml.Graph

/-!
# Faults of the structure of a text

Tokens are gathered into nodes.  That goes wrong if the tokens are in no order that YAML
knows, if they end at a fault, or if collections lie too far within one another.  Every
collection that is being read has taken a token that opens one, so in the last case there
are more of these than collections may lie one within the other.

Main results:

- `GoesOn.andThen`: what two steps of a reader come to.
- `goesOn_collection`: a collection, from its first token to its last.
- `Gathers.succ`: what all functions that read nodes come to, if they are called with one
  step more.
- `halted_of_document`: why the tokens of a text make up no document.
-/

namespace Tweaks.Yaml

open Stepwise

/-- Whether a token opens a collection.  A dash and the mark of a key may open one that has no
token of its own. -/
def Token.opens : Token → Bool
  | .flowSequenceStart => true
  | .flowMappingStart => true
  | .blockSequenceStart => true
  | .blockMappingStart => true
  | .blockEntry => true
  | .key => true
  | _ => false

namespace Reader

/-- Why tokens make up no document, where at most `deepest` collections may lie one within the
other. -/
def Halted (deepest : Nat) (tokens : List Token) (f : Fault) : Prop :=
  f = .malformed ∨ .fault f ∈ tokens ∨ f = .tooDeep ∧ deepest < tokens.countP Token.opens

variable {deepest : Nat} {tokens : List Token} {r r' : Reader}

/-- A reader stands among tokens, and for every collection that it is reading one of the tokens
behind it opens one. -/
structure Room (deepest : Nat) (tokens : List Token) (r : Reader) : Prop where
  within : r.tokens <:+ tokens
  room : deepest + r.tokens.countP Token.opens ≤ r.room + tokens.countP Token.opens

/-- A reader has gone on, and has ended the collections that it has begun. -/
structure After (r r' : Reader) : Prop where
  tokens : r'.tokens <:+ r.tokens
  room : r.room ≤ r'.room

/-- A reader that stays. -/
theorem After.refl (r : Reader) : After r r :=
  ⟨List.suffix_refl _, Nat.le_refl _⟩

/-- A reader that goes on and on. -/
theorem After.trans {r'' : Reader} (h : After r r') (h' : After r' r'') : After r r'' :=
  ⟨h'.tokens.trans h.tokens, Nat.le_trans h.room h'.room⟩

/-- Going on leaves room. -/
theorem Room.after (h : Room deepest tokens r) (h' : After r r') : Room deepest tokens r' where
  within := h'.tokens.trans h.within
  room := by
    have hopens : r'.tokens.countP Token.opens ≤ r.tokens.countP Token.opens :=
      h'.tokens.sublist.countP_le
    have hmore := h'.room
    have hroom := h.room
    omega

/-- Going past a token. -/
theorem after_skip (r : Reader) : After r r.skip :=
  ⟨List.drop_suffix 1 r.tokens, Nat.le_refl _⟩

/-- A reader that is asked for something halts for a reason, or goes on. -/
abbrev GoesOn (deepest : Nat) (tokens : List Token) (r : Reader) {α : Type}
    (result : Result (α × Reader)) : Prop :=
  Meets (Halted deepest tokens) (fun read => After r read.2) result

/-- What is not well formed. -/
theorem halted_malformed {α : Type} {good : α → Prop} :
    Meets (Halted deepest tokens) good (.error .malformed) :=
  Or.inl rfl

/-- A first step of a reader, and what follows it. -/
theorem GoesOn.andThen {α β : Type} {first : Result (α × Reader)}
    {next : α × Reader → Result (β × Reader)} (h : GoesOn deepest tokens r first)
    (hroom : Room deepest tokens r)
    (hnext : ∀ value r', Room deepest tokens r' → GoesOn deepest tokens r' (next (value, r'))) :
    GoesOn deepest tokens r (first >>= next) := by
  refine h.bind fun read hread => ?_
  exact (hnext read.1 read.2 (hroom.after hread)).imp (fun _ hcause => hcause)
    fun _ hafter => hread.trans hafter

/-- A token that does not fit is a fault, or is out of order. -/
theorem halted_unexpected (h : Room deepest tokens r) : Halted deepest tokens r.unexpected := by
  rw [unexpected]
  split
  · next f hpeek =>
    right; left
    rw [peek] at hpeek
    cases htokens : r.tokens with
    | nil => rw [htokens] at hpeek; cases hpeek
    | cons t rest =>
      rw [htokens, List.headD_cons] at hpeek
      rw [← hpeek]
      exact h.within.subset (htokens ▸ List.mem_cons_self)
  · exact Or.inl rfl

/-- Taking a given token. -/
theorem meets_expect (h : Room deepest tokens r) (t : Token) :
    Meets (Halted deepest tokens) (After r) (r.expect t) := by
  rw [expect]
  split
  · exact after_skip r
  · exact halted_unexpected h

/-- Adding a node takes no token. -/
theorem meets_reserve (anchor : Option (List Char)) (node : Node) :
    Meets (Halted deepest tokens) (fun read => read.2.tokens = r.tokens ∧ read.2.room = r.room)
      (r.reserve anchor node) := by
  rw [reserve.eq_def]
  split
  · exact ⟨rfl, rfl⟩
  · exact Meets.ite halted_malformed ⟨rfl, rfl⟩

/-- Adding a node. -/
theorem goesOn_reserve (anchor : Option (List Char)) (node : Node) :
    GoesOn deepest tokens r (r.reserve anchor node) :=
  (meets_reserve anchor node).imp (fun _ hcause => hcause) fun _ hread =>
    ⟨hread.1 ▸ List.suffix_refl _, Nat.le_of_eq hread.2.symm⟩

/-- Beginning a collection takes no token.  It is too deep only if there are too many tokens
that open collections. -/
theorem meets_enter (h : deepest < r.room + tokens.countP Token.opens)
    (anchor : Option (List Char)) (node : Node) :
    Meets (Halted deepest tokens) (fun read => read.2.tokens = r.tokens ∧ read.2.room + 1 = r.room)
      (r.enter anchor node) := by
  rw [enter]
  split
  · next hnone =>
    rw [hnone, Nat.zero_add] at h
    exact Or.inr (Or.inr ⟨rfl, h⟩)
  · next room hsome =>
    rw [hsome]
    refine (meets_reserve anchor node).imp (fun _ hcause => hcause) fun read hread => ?_
    exact ⟨hread.1, congrArg (· + 1) hread.2⟩

/-- A reader has gone on, and has begun a collection. -/
structure Entered (r r' : Reader) : Prop where
  tokens : r'.tokens <:+ r.tokens
  room : r'.room + 1 = r.room

/-- Ending a collection. -/
theorem Entered.leave {entered : Reader} (h : Entered r entered) (hafter : After entered r')
    (id : Nat) (node : Node) : After r (r'.leave id node) where
  tokens := hafter.tokens.trans h.tokens
  room := by
    have hmore := hafter.room
    have hless := h.room
    change r.room ≤ r'.room + 1
    omega

/-- A token that opens a collection is one of those that are left. -/
theorem countP_skip (h : r.peek.opens = true) :
    r.tokens.countP Token.opens = r.skip.tokens.countP Token.opens + 1 := by
  rw [peek] at h
  rw [skip]
  cases htokens : r.tokens with
  | nil => rw [htokens] at h; cases h
  | cons t rest =>
    rw [htokens, List.headD_cons] at h
    exact List.countP_cons_of_pos h

/-- Beginning a collection behind the token that opens it. -/
theorem meets_begin (h : Room deepest tokens r) (hopens : r.peek.opens = true)
    (anchor : Option (List Char)) (node : Node) :
    Meets (Halted deepest tokens) (fun read => Entered r read.2 ∧ Room deepest tokens read.2)
      (r.skip.enter anchor node) := by
  have hcount := countP_skip hopens
  have hroom := h.room
  have hless : deepest < r.skip.room + tokens.countP Token.opens := by
    change deepest < r.room + tokens.countP Token.opens
    omega
  refine (meets_enter hless anchor node).imp (fun _ hcause => hcause) fun read hread => ?_
  have hpast : read.2.tokens <:+ r.tokens := by
    rw [hread.1]
    exact (after_skip r).tokens
  refine ⟨⟨hpast, hread.2⟩, hpast.trans h.within, ?_⟩
  have hbegun : read.2.room + 1 = r.room := hread.2
  rw [hread.1]
  omega

/-- A collection, from the token that opens it to the last one. -/
theorem goesOn_collection {α : Type} (h : Room deepest tokens r) (hopens : r.peek.opens = true)
    {anchor : Option (List Char)} {node : Node} {body : Reader → Result (α × Reader)}
    {make : α → Node} (hbody : ∀ r', Room deepest tokens r' → GoesOn deepest tokens r' (body r')) :
    GoesOn deepest tokens r (do
      let (id, r) ← r.skip.enter anchor node
      let (parts, r) ← body r
      return (id, r.leave id (make parts))) := by
  refine (meets_begin h hopens anchor node).bind fun entered hentered => ?_
  refine (hbody entered.2 hentered.2).bind fun read hread => ?_
  exact hentered.1.leave hread _ _

/-- A sequence that no token of its own opens: its first dash does. -/
theorem goesOn_unindented (h : Room deepest tokens r) (hopens : r.peek = .blockEntry)
    {anchor : Option (List Char)} {node : Node} {body : Reader → Result (List Nat × Reader)}
    {make : List Nat → Node}
    (hbody : ∀ r', Room deepest tokens r'.skip → GoesOn deepest tokens r' (body r')) :
    GoesOn deepest tokens r (do
      let (id, r) ← r.enter anchor node
      let (parts, r) ← body r
      return (id, r.leave id (make parts))) := by
  have hcount := countP_skip (congrArg Token.opens hopens)
  have hroom := h.room
  have hless : deepest < r.room + tokens.countP Token.opens := by omega
  refine (meets_enter hless anchor node).bind fun entered hentered => ?_
  have htokens : entered.2.skip.tokens = r.skip.tokens := by
    rw [skip, skip, hentered.1]
  have hroom : Room deepest tokens entered.2.skip := by
    refine ⟨htokens ▸ (after_skip r).tokens.trans h.within, ?_⟩
    rw [htokens]
    change deepest + r.skip.tokens.countP Token.opens ≤
      entered.2.room + tokens.countP Token.opens
    have hbegun := hentered.2
    omega
  refine (hbody entered.2 hroom).bind fun read hread => ?_
  have hbegun : Entered r entered.2 := ⟨hentered.1 ▸ List.suffix_refl _, hentered.2⟩
  exact hbegun.leave hread _ _

/-- The reader behind the properties of a node. -/
theorem after_properties (r : Reader) : After r r.properties.2 := by
  have hsuffix : ∀ {rest : List Token} (before : List Token), r.tokens = before ++ rest →
      After r { r with tokens := rest } := by
    intro rest before htokens
    exact ⟨⟨before, htokens.symm⟩, Nat.le_refl _⟩
  rw [properties]
  split
  · next heq => exact hsuffix [_, _] heq
  · next heq => exact hsuffix [_, _] heq
  · next heq => exact hsuffix [_] heq
  · next heq => exact hsuffix [_] heq
  · exact .refl r

/-- The tag of a node. -/
theorem meets_fullTag (p : Properties) :
    Meets (Halted deepest tokens) (fun _ => True) (r.fullTag p) := by
  rw [fullTag]
  split
  · trivial
  · trivial
  · split
    · trivial
    · exact halted_malformed

/-! ## Nodes -/

/-- What the functions that read nodes come to with the given number of steps. -/
structure Gathers (deepest : Nat) (tokens : List Token) (fuel : Nat) : Prop where
  node (block unindented : Bool) {r : Reader} (h : Room deepest tokens r) :
    GoesOn deepest tokens r (node block unindented fuel r)
  nodeUnless (empty : List Token) (block unindented : Bool) {r : Reader}
    (h : Room deepest tokens r) : GoesOn deepest tokens r (nodeUnless empty block unindented fuel r)
  blockItems {r : Reader} (h : Room deepest tokens r) : GoesOn deepest tokens r (blockItems fuel r)
  unindentedItems {r : Reader} (h : r.peek = .blockEntry → Room deepest tokens r.skip) :
    GoesOn deepest tokens r (unindentedItems fuel r)
  blockEntries {r : Reader} (h : Room deepest tokens r) :
    GoesOn deepest tokens r (blockEntries fuel r)
  flowItems (first : Bool) {r : Reader} (h : Room deepest tokens r) :
    GoesOn deepest tokens r (flowItems fuel first r)
  flowItem {r : Reader} (h : Room deepest tokens r) : GoesOn deepest tokens r (flowItem fuel r)
  flowEntries (first : Bool) {r : Reader} (h : Room deepest tokens r) :
    GoesOn deepest tokens r (flowEntries fuel first r)
  flowPair {r : Reader} (h : Room deepest tokens r) :
    Meets (Halted deepest tokens) (fun read => After r read.2.2) (flowPair fuel r)

/-- Without a step nothing is read. -/
theorem Gathers.zero : Gathers deepest tokens 0 where
  node _ _ _ _ := halted_malformed
  nodeUnless _ _ _ _ _ := halted_malformed
  blockItems _ := halted_malformed
  unindentedItems _ := halted_malformed
  blockEntries _ := halted_malformed
  flowItems _ _ _ := halted_malformed
  flowItem _ := halted_malformed
  flowEntries _ _ _ := halted_malformed
  flowPair _ := halted_malformed

section Step

variable {fuel : Nat}

/-- Empty scalars. -/
theorem goesOn_emptyScalar : GoesOn deepest tokens r r.emptyScalar :=
  goesOn_reserve _ _

/-- What follows a token that is behind the reader. -/
theorem GoesOn.behind_skip {α : Type} {result : Result (α × Reader)}
    (h : GoesOn deepest tokens r.skip result) : GoesOn deepest tokens r result :=
  h.imp (fun _ hcause => hcause) fun _ hafter => (after_skip r).trans hafter

/-- Nodes. -/
theorem Gathers.node_succ (ih : Gathers deepest tokens fuel) (block unindented : Bool)
    (h : Room deepest tokens r) :
    GoesOn deepest tokens r (Reader.node block unindented (fuel + 1) r) := by
  rw [Reader.node]
  split
  · split
    · exact after_skip r
    · exact halted_malformed
  · have hafter := after_properties r
    revert hafter
    generalize r.properties = read
    obtain ⟨p, r'⟩ := read
    intro hafter
    refine (meets_fullTag p).bind fun tag _ => ?_
    refine Meets.imp (?_ : GoesOn deepest tokens r' _) (fun _ hcause => hcause)
      fun _ hread => hafter.trans hread
    replace h := h.after hafter
    dsimp only
    split
    · exact GoesOn.behind_skip (goesOn_reserve _ _)
    · next hpeek =>
      refine goesOn_collection h (congrArg Token.opens hpeek) fun r' hr' => ?_
      exact ih.flowItems true hr'
    · next hpeek =>
      refine goesOn_collection h (congrArg Token.opens hpeek) fun r' hr' => ?_
      exact ih.flowEntries true hr'
    · split
      · next hdash =>
        rw [Bool.and_eq_true, decide_eq_true_eq] at hdash
        refine goesOn_unindented h hdash.1 fun r' hr' => ?_
        exact ih.unindentedItems fun _ => hr'
      · split
        · next hstart =>
          rw [Bool.and_eq_true, decide_eq_true_eq] at hstart
          refine goesOn_collection h (congrArg Token.opens hstart.1) fun r' hr' => ?_
          exact ih.blockItems hr'
        · split
          · next hstart =>
            rw [Bool.and_eq_true, decide_eq_true_eq] at hstart
            refine goesOn_collection h (congrArg Token.opens hstart.1) fun r' hr' => ?_
            exact ih.blockEntries hr'
          · split
            · exact goesOn_reserve _ _
            · exact halted_unexpected h

/-- Nodes or empty scalars. -/
theorem Gathers.nodeUnless_succ (ih : Gathers deepest tokens fuel) (empty : List Token)
    (block unindented : Bool) (h : Room deepest tokens r) :
    GoesOn deepest tokens r (Reader.nodeUnless empty block unindented (fuel + 1) r) := by
  rw [Reader.nodeUnless]
  exact goesOn_emptyScalar.ite (ih.node block unindented h)

/-- The items of block sequences. -/
theorem Gathers.blockItems_succ (ih : Gathers deepest tokens fuel) (h : Room deepest tokens r) :
    GoesOn deepest tokens r (Reader.blockItems (fuel + 1) r) := by
  have hskip := h.after (after_skip r)
  rw [Reader.blockItems]
  split
  · refine GoesOn.behind_skip ((ih.nodeUnless _ _ _ hskip).andThen hskip fun item r hr => ?_)
    exact (ih.blockItems hr).andThen hr fun items r hr => After.refl r
  · exact (meets_expect h _).bind fun r' hafter => hafter

/-- The items of sequences that are not indented. -/
theorem Gathers.unindentedItems_succ (ih : Gathers deepest tokens fuel)
    (h : r.peek = .blockEntry → Room deepest tokens r.skip) :
    GoesOn deepest tokens r (Reader.unindentedItems (fuel + 1) r) := by
  rw [Reader.unindentedItems]
  split
  · next hpeek =>
    have hskip := h hpeek
    refine GoesOn.behind_skip ((ih.nodeUnless _ _ _ hskip).andThen hskip fun item r hr => ?_)
    refine (ih.unindentedItems fun _ => hr.after (after_skip r)).andThen hr fun items r hr => ?_
    exact After.refl r
  · exact After.refl r

/-- A value behind its mark, or an empty scalar. -/
theorem goesOn_value (h : Room deepest tokens r) {read : Reader → Result (Nat × Reader)}
    (hread : ∀ r', Room deepest tokens r' → GoesOn deepest tokens r' (read r')) :
    GoesOn deepest tokens r (if r.peek = .value then read r.skip else r.emptyScalar) :=
  (GoesOn.behind_skip (hread r.skip (h.after (after_skip r)))).ite goesOn_emptyScalar

/-- The entries of block mappings. -/
theorem Gathers.blockEntries_succ (ih : Gathers deepest tokens fuel) (h : Room deepest tokens r) :
    GoesOn deepest tokens r (Reader.blockEntries (fuel + 1) r) := by
  have hskip := h.after (after_skip r)
  rw [Reader.blockEntries]
  split
  · refine GoesOn.behind_skip ((ih.nodeUnless _ _ _ hskip).andThen hskip fun key r hr => ?_)
    refine (goesOn_value hr fun r' hr' => ih.nodeUnless _ _ _ hr').andThen hr fun value r hr => ?_
    exact (ih.blockEntries hr).andThen hr fun entries r hr => After.refl r
  · exact (meets_expect h _).bind fun r' hafter => hafter

/-- A comma between two parts of a flow collection. -/
theorem meets_comma (h : Room deepest tokens r) (first : Bool) :
    Meets (Halted deepest tokens) (After r) (if first then .ok r else r.expect .flowEntry) :=
  Meets.ite (After.refl r : After r r) (meets_expect h _)

/-- The items of flow sequences. -/
theorem Gathers.flowItems_succ (ih : Gathers deepest tokens fuel) (first : Bool)
    (h : Room deepest tokens r) :
    GoesOn deepest tokens r (Reader.flowItems (fuel + 1) first r) := by
  rw [Reader.flowItems]
  split
  · exact after_skip r
  · refine (meets_comma h first).bind fun r' hafter => ?_
    have hr' := h.after hafter
    split
    · exact hafter.trans (after_skip r')
    · have hrest : GoesOn deepest tokens r' (do
          let (item, r) ← Reader.flowItem fuel r'
          let (items, r) ← Reader.flowItems fuel false r
          return (item :: items, r)) := by
        refine (ih.flowItem hr').andThen hr' fun item r hr => ?_
        exact (ih.flowItems false hr).andThen hr fun items r hr => After.refl r
      exact hrest.imp (fun _ hcause => hcause) fun _ hrest => hafter.trans hrest

/-- Items of flow sequences. -/
theorem Gathers.flowItem_succ (ih : Gathers deepest tokens fuel) (h : Room deepest tokens r) :
    GoesOn deepest tokens r (Reader.flowItem (fuel + 1) r) := by
  rw [Reader.flowItem]
  split
  · next hkey =>
    refine (meets_begin h (congrArg Token.opens hkey) none _).bind fun entered hentered => ?_
    have hroom := hentered.2
    refine (ih.nodeUnless _ _ _ hroom).bind fun key hkey => ?_
    have hvalue := goesOn_value (hroom.after hkey) fun r' hr' =>
      ih.nodeUnless [.flowEntry, .flowSequenceEnd] false false hr'
    refine hvalue.bind fun value hvalue => ?_
    exact hentered.1.leave (hkey.trans hvalue) _ _
  · exact ih.node _ _ h

/-- Entries of flow mappings. -/
theorem Gathers.flowPair_succ (ih : Gathers deepest tokens fuel) (h : Room deepest tokens r) :
    Meets (Halted deepest tokens) (fun read => After r read.2.2)
      (Reader.flowPair (fuel + 1) r) := by
  rw [Reader.flowPair]
  split
  · have hskip := h.after (after_skip r)
    refine (ih.nodeUnless _ _ _ hskip).bind fun key hkey => ?_
    have hvalue := goesOn_value (hskip.after hkey) fun r' hr' =>
      ih.nodeUnless [.flowEntry, .flowMappingEnd] false false hr'
    refine hvalue.bind fun value hvalue => ?_
    exact (after_skip r).trans (hkey.trans hvalue)
  · refine (ih.node _ _ h).bind fun key hkey => ?_
    exact goesOn_emptyScalar.bind fun value hvalue => hkey.trans hvalue

/-- The entries of flow mappings. -/
theorem Gathers.flowEntries_succ (ih : Gathers deepest tokens fuel) (first : Bool)
    (h : Room deepest tokens r) :
    GoesOn deepest tokens r (Reader.flowEntries (fuel + 1) first r) := by
  rw [Reader.flowEntries]
  split
  · exact after_skip r
  · refine (meets_comma h first).bind fun r' hafter => ?_
    have hr' := h.after hafter
    split
    · exact hafter.trans (after_skip r')
    · refine (ih.flowPair hr').bind fun pair hpair => ?_
      refine (ih.flowEntries false (hr'.after hpair)).bind fun entries hentries => ?_
      exact hafter.trans (hpair.trans hentries)

/-- With one step more the functions still go on. -/
theorem Gathers.succ (ih : Gathers deepest tokens fuel) : Gathers deepest tokens (fuel + 1) where
  node block unindented _ h := ih.node_succ block unindented h
  nodeUnless empty block unindented _ h := ih.nodeUnless_succ empty block unindented h
  blockItems h := ih.blockItems_succ h
  unindentedItems h := ih.unindentedItems_succ h
  blockEntries h := ih.blockEntries_succ h
  flowItems first _ h := ih.flowItems_succ first h
  flowItem h := ih.flowItem_succ h
  flowEntries first _ h := ih.flowEntries_succ first h
  flowPair h := ih.flowPair_succ h

end Step

/-- The functions that read nodes go on. -/
theorem gathers (deepest : Nat) (tokens : List Token) (fuel : Nat) :
    Gathers deepest tokens fuel := by
  induction fuel with
  | zero => exact .zero
  | succ fuel ih => exact ih.succ

/-! ## Documents -/

/-- Directives. -/
theorem goesOn_directives (fuel : Nat) (versionSeen : Bool)
    (read : List (List Char × List Char)) :
    GoesOn deepest tokens r (directives fuel versionSeen read r) := by
  induction fuel generalizing versionSeen read r with
  | zero => exact halted_malformed
  | succ fuel ih =>
    rw [directives]
    split
    · exact halted_malformed.ite (GoesOn.behind_skip (ih true read))
    · exact halted_malformed.ite (GoesOn.behind_skip (ih versionSeen _))
    · exact GoesOn.behind_skip (ih versionSeen read)
    · exact After.refl r

/-- The end of a document. -/
theorem meets_finish (h : Room deepest tokens r) :
    Meets (Halted deepest tokens) (fun _ => True) r.finish := by
  have hskip : After r r.skipEnds := ⟨List.dropWhile_suffix _, Nat.le_refl _⟩
  rw [finish]
  exact Meets.ite trivial (halted_unexpected (h.after hskip))

/-- Documents. -/
theorem meets_document (h : Room deepest tokens r) :
    Meets (Halted deepest tokens) (fun _ => True) r.document := by
  have hroot : ∀ {r' : Reader}, Room deepest tokens r' →
      Meets (Halted deepest tokens) (fun _ => True) (do
        let (root, r) ← Reader.node true false r'.enough r'
        r.finish
        return (some root, r.nodes)) := by
    intro r' hr'
    refine ((gathers deepest tokens _).node true false hr').bind fun read hread => ?_
    exact (meets_finish (hr'.after hread)).bind fun _ _ => trivial
  rw [document]
  split
  · trivial
  · split
    · refine (goesOn_directives _ _ _).bind fun read hread => ?_
      have hread := h.after hread
      have hhandles : Room deepest tokens { read.2 with handles := read.1 ++ standardHandles } :=
        ⟨hread.within, hread.room⟩
      refine Meets.bind (meets_expect hhandles _) fun r' hafter => ?_
      have hr' := hhandles.after hafter
      refine Meets.bind (goesOn_emptyScalar.ite ((gathers deepest tokens _).node true false hr'))
        fun root hroot => ?_
      exact (meets_finish (hr'.after hroot)).bind fun _ _ => trivial
    · exact hroot h

/-- Why the tokens of a text make up no document. -/
theorem halted_of_document {f : Fault} (h : (start deepest tokens).document = .error f) :
    Halted deepest tokens f := by
  have hstart : Room deepest tokens (start deepest tokens) :=
    ⟨List.suffix_refl tokens, Nat.le_refl _⟩
  have hmeets := meets_document hstart
  rw [h] at hmeets
  exact hmeets

end Reader

end Tweaks.Yaml
