import Tweaks.Proofs.Buildable
import Tweaks.Proofs.Decoding
import Tweaks.Proofs.Joining

/-!
# What a list says

A list of scripts and the compiler answer the same questions on separate ways.  A list
fails as compiling everything does; it goes through the scripts as they stand in the
document, with the categories around each; and what it calls revertible is what leaves a
fragment when it is compiled to be undone.

Main results:

- `Collection.mem_walk_iff`: a walk visits each script with the categories that lead to it.
- `scriptsInOrder_of_ofDocument`: the scripts of a decoded collection stand in the order of
  the document.
- `revertCode_ne_empty`: code that undoes a script is not empty.
- `compile_revert_single`: what a single script compiles to, to be undone.
- `list_agrees_with_compiler`: the list of a decoded collection, told by the compiler.
-/

namespace Tweaks

/-! ## Categories that lead to a script -/

/-- Categories lead to a script, from the given one in: each stands directly in the one
before, and the script in the last. -/
inductive Category.Leads : Category → List Category → Script → Prop
  | here {k : Category} {s : Script} (holds : s ∈ k.scripts) : Leads k [k] s
  | inside {k child : Category} {chain : List Category} {s : Script}
      (within : child ∈ k.categories) (below : Leads child chain s) : Leads k (k :: chain) s

/-- Categories lead to a script from the top of a collection. -/
def Collection.Leads (c : Collection) (chain : List Category) (s : Script) : Prop :=
  ∃ top ∈ c.actions, top.Leads chain s

/-- The way from a category to a script ends there, or goes on in a child. -/
theorem Category.leads_iff {k : Category} {chain : List Category} {s : Script} :
    k.Leads chain s ↔ chain = [k] ∧ s ∈ k.scripts ∨
      ∃ child ∈ k.categories, ∃ rest, child.Leads rest s ∧ chain = k :: rest := by
  constructor
  · intro h
    cases h with
    | here holds => exact .inl ⟨rfl, holds⟩
    | inside within below => exact .inr ⟨_, within, _, below, rfl⟩
  · rintro (⟨rfl, holds⟩ | ⟨child, within, rest, below, rfl⟩)
    · exact .here holds
    · exact .inside within below

/-- A walk through some contents visits the scripts that stand there with the names it was
given, and every other one also with those of the categories that lead to it. -/
theorem Contents.mem_walk_iff {contents : Contents} {outer trail : List String} {s : Script} :
    (trail, s) ∈ contents.walk outer ↔ trail = outer ∧ s ∈ contents.scripts ∨
      ∃ k ∈ contents.categories, ∃ chain, k.Leads chain s ∧
        trail = outer ++ chain.map Category.name := by
  induction contents generalizing outer with
  | empty => simp [walk, scripts, categories]
  | script other rest ih =>
    rw [walk, scripts, categories, List.mem_cons, ih, Prod.mk.injEq, List.mem_cons, and_or_left,
      or_assoc]
  | category name docs children rest ihChildren ihRest =>
    -- The children are walked through behind one more name: that is one more step to lead.
    have hinside : trail = outer ++ [name] ∧ s ∈ children.scripts ∨
        (∃ k ∈ children.categories, ∃ chain, k.Leads chain s ∧
          trail = outer ++ [name] ++ chain.map Category.name) ↔
        ∃ chain, Category.Leads ⟨name, docs, children⟩ chain s ∧
          trail = outer ++ chain.map Category.name := by
      constructor
      · rintro (⟨rfl, holds⟩ | ⟨k, within, chain, below, rfl⟩)
        · exact ⟨_, .here holds, rfl⟩
        · exact ⟨_, .inside within below, by simp⟩
      · rintro ⟨chain, hleads, rfl⟩
        rcases Category.leads_iff.1 hleads with
          ⟨rfl, holds⟩ | ⟨child, within, others, below, rfl⟩
        · exact .inl ⟨rfl, holds⟩
        · exact .inr ⟨child, within, others, below, by simp⟩
    rw [walk, scripts, categories, List.mem_append, ihChildren, ihRest, hinside,
      List.exists_mem_cons_iff, or_left_comm]

/-- A walk through a collection visits every script with the names of the categories that
lead to it. -/
theorem Collection.mem_walk_iff {c : Collection} {trail : List String} {s : Script} :
    (trail, s) ∈ c.walk ↔ ∃ chain, c.Leads chain s ∧ trail = chain.map Category.name := by
  have hcategory (k : Category) : (trail, s) ∈ k.walk ↔
      ∃ chain, k.Leads chain s ∧ trail = chain.map Category.name := by
    have h : (trail, s) ∈ (Contents.ofCategory k .empty).walk [] ↔ _ := Contents.mem_walk_iff
    simpa [Contents.ofCategory, Contents.walk, Contents.scripts, Contents.categories,
      Category.walk] using h
  rw [walk, List.mem_flatMap]
  simp only [hcategory, Leads]
  constructor
  · rintro ⟨top, htop, chain, hleads, rfl⟩
    exact ⟨chain, ⟨top, htop, hleads⟩, rfl⟩
  · rintro ⟨chain, ⟨top, htop, hleads⟩, rfl⟩
    exact ⟨top, htop, chain, hleads, rfl⟩

/-! ## The order of the document -/

/-- Names are those of all the scripts of a document, in the order in which these stand
in it. -/
def Document.ScriptsInOrder (d : Document) (names : List String) : Prop :=
  ∃ places : List Location, places.Pairwise Location.Before ∧
    (∀ place, place ∈ places ↔ ∃ name, d.Named .script place name) ∧
    List.Forall₂ (d.Named .script) places names

/-- The categories of a decoded collection are decoded from the items under its actions. -/
theorem exists_actions_of_ofDocument {d : Document} {c : Collection}
    (h : Collection.ofDocument d = .ok c) :
    ∃ raw items, d.field? "actions" = some raw ∧ raw.items? = some items ∧
      Decode.each Decode.category [.key "actions"] 0 items = .ok c.actions := by
  obtain ⟨entries, hentries, h⟩ := Stepwise.exists_of_bind_eq_ok h
  obtain ⟨name, -, h⟩ := Stepwise.exists_of_bind_eq_ok h
  obtain ⟨os, -, h⟩ := Stepwise.exists_of_bind_eq_ok h
  obtain ⟨language, -, h⟩ := Stepwise.exists_of_bind_eq_ok h
  obtain ⟨raw, hraw, h⟩ := Stepwise.exists_of_bind_eq_ok h
  obtain ⟨items, hitems, h⟩ := Stepwise.exists_of_bind_eq_ok h
  split at h
  · cases h
  · obtain ⟨actions, hactions, h⟩ := Stepwise.exists_of_bind_eq_ok h
    obtain ⟨-, -, h⟩ := Stepwise.exists_of_bind_eq_ok h
    obtain ⟨definitions, -, h⟩ := Stepwise.exists_of_bind_eq_ok h
    obtain ⟨functions, -, h⟩ := Stepwise.exists_of_bind_eq_ok h
    obtain ⟨⟨⟩, -, h⟩ := Stepwise.exists_of_bind_eq_ok h
    cases h
    have hfield := Document.field?_of_present? (Decode.mapping_eq_ok_iff.1 hentries)
      (Decode.required_eq_ok_iff.1 hraw)
    exact ⟨raw, items, hfield, Decode.list_eq_ok_iff.1 hitems, hactions⟩

/-- The scripts of a decoded collection are those of the document, in its order. -/
theorem scriptsInOrder_of_ofDocument {d : Document} {c : Collection}
    (h : Collection.ofDocument d = .ok c) : d.ScriptsInOrder (c.scripts.map Script.name) := by
  obtain ⟨raw, items, hraw, hitems, hactions⟩ := exists_actions_of_ofDocument h
  have hmem := @Decode.mem_allScriptPlaces_iff_named d raw items c.actions hraw hitems hactions
  have hnames := Decode.map_snd_allScriptPlaces [.key "actions"] 0 c.actions
  have hbefore := Decode.pairwise_allScriptPlaces [.key "actions"] 0 c.actions
  refine ⟨_, List.pairwise_map.2 hbefore, fun place => ?_, ?_⟩
  · rw [List.mem_map]
    constructor
    · rintro ⟨k, hk, rfl⟩
      exact ⟨k.2, hmem.1 hk⟩
    · rintro ⟨name, hname⟩
      exact ⟨(place, name), hmem.2 hname, rfl⟩
  · rw [Collection.scripts, Collection.walk, List.map_map, List.forall₂_map_left_iff]
    rw [Function.comp_def, ← hnames, List.forall₂_map_right_iff, List.forall₂_same]
    exact fun k hk => hmem.1 hk

/-! ## Code that undoes -/

namespace Compilation

open Resolution

variable {c : Collection} {registry : Template.Registry}

/-- What is left of a text without the breaks around it is not empty. -/
theorem trimmed?_ne_empty (text : String) : trimmed? text ≠ some "" := by
  rw [trimmed?]
  split
  · simp
  · next hfilled =>
    intro h
    rw [Option.some.injEq] at h
    exact hfilled (String.isEmpty_iff.2 h)

/-- Code that undoes a script is not empty: it is trimmed or put together from calls, and
is left out where nothing remains. -/
theorem revertCode_ne_empty {s : Script} {code : Resolved}
    (h : scriptCode c registry s = .ok code) : code.revertCode ≠ some "" := by
  rw [scriptCode] at h
  split at h
  · cases h
    intro hempty
    obtain ⟨text, -, htrimmed⟩ := Option.bind_eq_some_iff.1 hempty
    exact trimmed?_ne_empty text htrimmed
  · obtain ⟨results, -, rfl⟩ := Stepwise.exists_of_map_eq_ok h
    rw [merge_eq]
    intro hempty
    simp [filled?] at hempty

/-- Where no two scripts have the same name, one is selected by its own. -/
theorem selected_single (hnodup : (c.scripts.map Script.name).Nodup) {script : Script}
    (hscript : script ∈ c.scripts) (direction : Direction) :
    selected c ⟨some [script.name], none, none, direction⟩ = [script] := by
  have hscripts := (List.Nodup.of_map Script.name hnodup).sublist
    (selected_sublist c ⟨some [script.name], none, none, direction⟩)
  -- Selecting keeps the order and repeats nothing, so the members decide.
  rw [← List.perm_singleton, List.perm_ext_iff_of_nodup hscripts (List.nodup_singleton script)]
  intro other
  rw [selected_eq hnodup, mem_selectedScripts_iff, List.mem_singleton]
  constructor
  · rintro ⟨hother, hselects⟩
    have hname : other.name = script.name := by
      simpa using hselects.name _ rfl
    exact List.inj_on_of_nodup_map hnodup hother hscript hname
  · rintro rfl
    refine ⟨hscript, ⟨?_, ?_, ?_⟩⟩
    · rintro names ⟨⟩
      exact List.mem_singleton_self _
    · rintro categories ⟨⟩
    · rintro level ⟨⟩

/-- A single script with code compiles to its own fragment, if that has a text. -/
theorem compile_single (hnodup : (c.scripts.map Script.name).Nodup) {script : Script}
    (hscript : script ∈ c.scripts) {code : Resolved}
    (hcode : scriptCode c registry script = .ok code) (direction : Direction) :
    compile c registry ⟨some [script.name], none, none, direction⟩ =
      .ok (keep [] [fragment direction script code]) := by
  have hknown : Selection.Known c ⟨some [script.name], none, none, direction⟩ := by
    constructor
    · rintro names ⟨⟩ name hname
      exact ⟨script, hscript, (List.mem_singleton.1 hname).symm⟩
    · rintro categories ⟨⟩
  rw [compile_eq, check_eq_ok_iff.2 hknown, selected_single hnodup hscript]
  dsimp only
  rw [Stepwise.mapM_cons, compiledScript, hcode]
  rfl

/-- A single script compiles, to be undone, to its code for that, and to nothing if it has
none. -/
theorem compile_revert_single (hnodup : (c.scripts.map Script.name).Nodup) {script : Script}
    (hscript : script ∈ c.scripts) {code : Resolved}
    (hcode : scriptCode c registry script = .ok code) :
    compile c registry ⟨some [script.name], none, none, .revert⟩ =
      .ok (code.revertCode.toList.map fun text =>
        ⟨script.name, code.code, some text, .revert⟩) := by
  rw [compile_single hnodup hscript hcode, fragment]
  cases hrevert : code.revertCode with
  | none => rfl
  | some text =>
    have hne : text ≠ "" := by
      rintro rfl
      exact revertCode_ne_empty hcode hrevert
    simp [keep, hne]

end Compilation

/-! ## Lists and compilations -/

/-- A summary tells of a script: its name and its level, and the names of the categories
that lead to it. -/
structure Summary.Describes (c : Collection) (script : Script) (summary : Summary) : Prop where
  name : summary.name = script.name
  recommend : summary.recommend = script.recommend
  led : ∃ chain, c.Leads chain script
  categories : ∀ chain, c.Leads chain script → summary.categories = chain.map Category.name

namespace Command

open Compilation Resolution

variable {c : Collection}

/-- What is said about a script is said of its code. -/
theorem summary_eq_ok_iff {visit : List String × Script} {summary' : Summary} :
    summary c visit = .ok summary' ↔ ∃ code, scriptCode c Pipe.standard visit.2 = .ok code ∧
      summary' = Summary.ofScript visit.1 visit.2 code := by
  rw [summary, compiledScript]
  cases scriptCode c Pipe.standard visit.2 <;> simp [Except.map, eq_comm]

/-- A list fails exactly as compiling everything does. -/
theorem summaries_eq_error_iff {e : CompileError} :
    summaries c = .error e ↔
      compile c Pipe.standard (.everything .forward) = .error e := by
  rw [summaries_eq_map, compile_everything_eq]
  cases c.scripts.mapM (compiledScript c Pipe.standard .forward) <;> simp [Except.map]

/-- The summaries of a list are those of the visits of a walk, one by one. -/
theorem forall₂_of_summaries {summaries' : List Summary} (h : summaries c = .ok summaries') :
    List.Forall₂ (fun visit summary' => summary c visit = .ok summary') c.walk summaries' := by
  rw [summaries_eq, Stepwise.mapM_eq_ok_iff, ← List.forall₂_eq_eq_eq,
    List.forall₂_map_left_iff, List.forall₂_map_right_iff] at h
  exact h

/-- A summary of a list is that of a visit of a walk. -/
theorem exists_visit_of_mem {summaries' : List Summary} (h : summaries c = .ok summaries')
    {summary' : Summary} (hmem : summary' ∈ summaries') :
    ∃ visit ∈ c.walk, summary c visit = .ok summary' := by
  rw [summaries_eq, Stepwise.mapM_eq_ok_iff] at h
  have hok : .ok summary' ∈ c.walk.map (summary c) := h ▸ List.mem_map_of_mem hmem
  exact List.mem_map.1 hok

/-- The summaries of a list tell of the scripts of the collection, one by one. -/
theorem describes_of_summaries (hnodup : (c.scripts.map Script.name).Nodup)
    {summaries' : List Summary} (h : summaries c = .ok summaries') :
    List.Forall₂ (Summary.Describes c) c.scripts summaries' := by
  have hvisits := (List.forall₂_and_left c.walk summaries').2
    ⟨fun visit hvisit => hvisit, forall₂_of_summaries h⟩
  rw [Collection.scripts, List.forall₂_map_left_iff]
  refine hvisits.imp ?_
  rintro ⟨trail, script⟩ summary' ⟨hvisit, hsummary⟩
  obtain ⟨code, -, rfl⟩ := summary_eq_ok_iff.1 hsummary
  obtain ⟨chain, hleads, -⟩ := Collection.mem_walk_iff.1 hvisit
  refine ⟨rfl, rfl, ⟨chain, hleads⟩, fun other hother => ?_⟩
  exact Collection.trail_unique hnodup hvisit (Collection.mem_walk_iff.2 ⟨other, hother, rfl⟩)

/-- A list calls a script revertible exactly where compiling that script alone, to be
undone, leaves one fragment; otherwise it leaves none. -/
theorem revertible_iff_compile (hnodup : (c.scripts.map Script.name).Nodup)
    {summaries' : List Summary} (h : summaries c = .ok summaries') {summary' : Summary}
    (hmem : summary' ∈ summaries') :
    (summary'.revertible = true ↔ ∃ f,
      compile c Pipe.standard ⟨some [summary'.name], none, none, .revert⟩ = .ok [f]) ∧
    (summary'.revertible = false ↔
      compile c Pipe.standard ⟨some [summary'.name], none, none, .revert⟩ = .ok []) := by
  obtain ⟨⟨trail, script⟩, hvisit, hsummary⟩ := exists_visit_of_mem h hmem
  obtain ⟨code, hcode, rfl⟩ := summary_eq_ok_iff.1 hsummary
  have hcompile := compile_revert_single hnodup (List.mem_map_of_mem hvisit) hcode
  simp only [Summary.ofScript]
  rw [hcompile]
  cases code.revertCode <;> simp

/-- The list of a decoded collection is told by the compiler.  There is one exactly where
everything compiles; otherwise listing fails for the same reason.  It names every script
once, in the order of the document, each with the categories that lead to it, and calls
revertible what leaves one fragment when it is compiled by itself to be undone. -/
theorem list_agrees_with_compiler {d : Document} (h : Collection.ofDocument d = .ok c) :
    ((∃ summaries', summaries c = .ok summaries') ↔
      ∃ fragments, compile c Pipe.standard (.everything .forward) = .ok fragments) ∧
    (∀ e, summaries c = .error e ↔
      compile c Pipe.standard (.everything .forward) = .error e) ∧
    (∀ w platform file encoded opened e, Opened.find w platform file = .ok opened →
      opened.collection = c → compile c Pipe.standard (.everything .forward) = .error e →
      list w platform file encoded =
        Report.after "" opened.notes (.ofObstacle (.ofCompileError e))) ∧
    ∀ summaries', summaries c = .ok summaries' →
      (∀ w platform file encoded opened, Opened.find w platform file = .ok opened →
        opened.collection = c →
        list w platform file encoded =
          Report.after "" opened.notes (shown c summaries' encoded)) ∧
      d.ScriptsInOrder (summaries'.map Summary.name) ∧
      (summaries'.map Summary.name).Nodup ∧
      List.Forall₂ (Summary.Describes c) c.scripts summaries' ∧
      ∀ summary' ∈ summaries',
        (summary'.revertible = true ↔ ∃ f,
          compile c Pipe.standard ⟨some [summary'.name], none, none, .revert⟩ = .ok [f]) ∧
        (summary'.revertible = false ↔
          compile c Pipe.standard ⟨some [summary'.name], none, none, .revert⟩ = .ok []) := by
  have hnodup := (Decode.loaded_of_ofDocument h).scripts_nodup
  refine ⟨?_, fun e => summaries_eq_error_iff, ?_, fun summaries' hsummaries => ?_⟩
  · rw [exists_summaries_iff, exists_compile_everything_iff]
  · rintro w platform file encoded opened e hfind rfl hcompile
    rw [list_of_find hfind encoded, summaries_eq_error_iff.2 hcompile]
  · refine ⟨?_, ?_, ?_, describes_of_summaries hnodup hsummaries,
      fun summary' => revertible_iff_compile hnodup hsummaries⟩
    · rintro w platform file encoded opened hfind rfl
      rw [list_of_find hfind encoded, hsummaries]
    · rw [names_of_summaries hsummaries]
      exact scriptsInOrder_of_ofDocument h
    · rw [names_of_summaries hsummaries]
      exact hnodup

/-- In the sample, the second script is called revertible, with both categories around it,
and the list agrees with the compiler. -/
theorem sample_list_agrees :
    summaries sample = .ok [⟨"Clear history", ["Privacy"], none, false⟩,
      ⟨"Stop service", ["Privacy", "Services"], some .strict, true⟩] ∧
    sampleDocument.ScriptsInOrder ["Clear history", "Stop service"] ∧
    compile sample Pipe.standard ⟨some ["Clear history"], none, none, .revert⟩ = .ok [] ∧
    ∃ f, compile sample Pipe.standard ⟨some ["Stop service"], none, none, .revert⟩ =
      .ok [f] := by
  have hsummaries : summaries sample = .ok [⟨"Clear history", ["Privacy"], none, false⟩,
      ⟨"Stop service", ["Privacy", "Services"], some .strict, true⟩] := by decide +kernel
  obtain ⟨-, horder, -, -, hrevertible⟩ :=
    (list_agrees_with_compiler ofDocument_sample).2.2.2 _ hsummaries
  refine ⟨hsummaries, horder, ?_, ?_⟩
  · exact (hrevertible _ (.head _)).2.1 rfl
  · exact (hrevertible _ (.tail _ (.head _))).1.1 rfl

end Command

end Tweaks
