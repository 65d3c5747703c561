import Tweaks.Command.List
import Tweaks.Proofs.Outcome

/-!
# What can be built

Which selections of a collection compile.  The code of a script depends neither on the
direction nor on what else is selected, and a memo changes nothing about it.  So one
compilation of everything tells about every other one, and about the list of scripts.

Main results:

- `check_eq_ok_iff`: the check of a selection is passed by known names.
- `exists_compile_eq_ok_iff`: a selection compiles exactly where its names are known and
  each selected script has code.
- `exists_compile_everything_iff`: everything compiles, in either direction, exactly where
  each script of the collection has code.
- `summaries_eq`, `exists_summaries_iff`: what there is to list, script by script.
- `compiles_and_lists_of_everything`: from one compilation of everything to all others.
-/

namespace Tweaks

open Compilation Resolution

variable {c : Collection} {registry : Template.Registry} {s : Selection}

/-! ## Known names -/

/-- All names that a selection asks for exist in a collection. -/
structure Selection.Known (c : Collection) (s : Selection) : Prop where
  scripts : ∀ names, s.names = some names →
    ∀ name ∈ names, ∃ script ∈ c.scripts, script.name = name
  categories : ∀ categories, s.categories = some categories →
    ∀ name ∈ categories, ∃ k, c.HasCategory k ∧ k.name = name

/-- A selection without restrictions asks for no names. -/
theorem Selection.known_everything (c : Collection) (direction : Direction) :
    (Selection.everything direction).Known c := by
  constructor
  · rintro names ⟨⟩
  · rintro categories ⟨⟩

/-- Names are known exactly where no name is missed. -/
theorem Selection.known_iff : s.Known c ↔
    (∀ name, ¬s.MissesScript c name) ∧ ∀ name, ¬s.MissesCategory c name := by
  constructor
  · intro h
    constructor
    · rintro name ⟨⟨names, hnames, hname⟩, hmissing⟩
      obtain ⟨script, hscript, hsame⟩ := h.scripts names hnames name hname
      exact hmissing script hscript hsame
    · rintro name ⟨⟨categories, hcategories, hname⟩, hmissing⟩
      obtain ⟨k, hk, hsame⟩ := h.categories categories hcategories name hname
      exact hmissing k hk hsame
  · rintro ⟨hscripts, hcategories⟩
    constructor
    · intro names hnames name hname
      by_contra hmissing
      refine hscripts name ⟨⟨names, hnames, hname⟩, fun script hscript hsame => ?_⟩
      exact hmissing ⟨script, hscript, hsame⟩
    · intro categories hselected name hname
      by_contra hmissing
      refine hcategories name ⟨⟨categories, hselected, hname⟩, fun k hk hsame => ?_⟩
      exact hmissing ⟨k, hk, hsame⟩

namespace Compilation

/-- The check of a selection is passed exactly by known names. -/
theorem check_eq_ok_iff : check c s = .ok () ↔ s.Known c := by
  rw [Selection.known_iff]
  constructor
  · intro h
    have hnone : unknown (c.scripts.map Script.name) s.names = [] ∧
        unknown (c.categories.map Category.name) s.categories = [] := by
      rw [check] at h
      split at h
      · next hscripts hcategories => exact ⟨hscripts, hcategories⟩
      · cases h
      · cases h
    constructor
    · intro name hname
      exact List.ne_nil_of_mem (mem_unknown_scripts.2 hname) hnone.1
    · intro name hname
      exact List.ne_nil_of_mem (mem_unknown_categories.2 hname) hnone.2
  · rintro ⟨hscripts, hcategories⟩
    exact check_eq_ok hscripts hcategories

/-! ## Selections that compile -/

/-- The selected scripts are scripts of the collection, in the same order. -/
theorem selected_sublist (c : Collection) (s : Selection) : (selected c s).Sublist c.scripts :=
  (List.filter_sublist).map Prod.snd

/-- Without restrictions all scripts are selected. -/
theorem selected_everything (c : Collection) (direction : Direction) :
    selected c (.everything direction) = c.scripts := by
  rw [selected, Collection.scripts, List.filter_eq_self.2]
  rintro ⟨trail, script⟩ -
  exact Selection.everything_matchesScript direction trail script

/-- A script compiles exactly where it has code. -/
theorem exists_compiledScript_iff {direction : Direction} {script : Script} :
    (∃ compiled, compiledScript c registry direction script = .ok compiled) ↔
      ∃ code, scriptCode c registry script = .ok code := by
  rw [compiledScript]
  cases scriptCode c registry script <;> simp

/-- A selection compiles exactly where its names are known and each selected script has
code.  The direction plays no part in it. -/
theorem exists_compile_eq_ok_iff : (∃ fragments, compile c registry s = .ok fragments) ↔
    s.Known c ∧ ∀ script ∈ selected c s, ∃ code, scriptCode c registry script = .ok code := by
  have hcodes : (∃ codes, (selected c s).mapM (compiledScript c registry s.direction) =
      .ok codes) ↔ ∀ script ∈ selected c s, ∃ code, scriptCode c registry script = .ok code := by
    rw [Stepwise.exists_mapM_eq_ok_iff]
    simp only [exists_compiledScript_iff]
  rw [← check_eq_ok_iff, ← hcodes, compile_eq]
  cases check c s with
  | error e => simp
  | ok _ =>
    dsimp only
    cases (selected c s).mapM (compiledScript c registry s.direction) <;> simp [Except.map]

/-- Every script of a collection has code. -/
def Buildable (c : Collection) (registry : Template.Registry) : Prop :=
  ∀ script ∈ c.scripts, ∃ code, scriptCode c registry script = .ok code

/-- Compiling everything compiles all scripts in a row. -/
theorem compile_everything_eq (c : Collection) (registry : Template.Registry)
    (direction : Direction) :
    compile c registry (.everything direction) =
      (c.scripts.mapM (compiledScript c registry direction)).map fun compiled =>
        keep [] (compiled.map fun (script, code) => fragment direction script code) := by
  rw [compile_eq, check_eq_ok_iff.2 (Selection.known_everything c direction),
    selected_everything]
  rfl

/-- Everything compiles, in either direction, exactly where each script has code. -/
theorem exists_compile_everything_iff (direction : Direction) :
    (∃ fragments, compile c registry (.everything direction) = .ok fragments) ↔
      Buildable c registry := by
  rw [exists_compile_eq_ok_iff, selected_everything, Buildable]
  exact and_iff_right (Selection.known_everything c direction)

/-- Where everything does not compile, a script has no code, for a reason that has to be
mended in the collection. -/
theorem exists_cause_of_compile_everything (hloaded : c.Loaded) {direction : Direction}
    {e : CompileError} (h : compile c registry (.everything direction) = .error e) :
    ∃ script ∈ c.scripts, ∃ cause, scriptCode c registry script = .error (.error cause) ∧
      e = .script script.name direction (.error cause) := by
  rw [compile_everything_eq] at h
  obtain ⟨before, script, after, hscripts, -, hfails⟩ :=
    Stepwise.exists_first_of_mapM_eq_error (Stepwise.eq_error_of_map_eq_error h)
  obtain ⟨failure, hfailure, rfl⟩ := compiledScript_eq_error_iff.1 hfails
  obtain ⟨cause, rfl⟩ := exists_error_of_scriptCode hloaded hfailure
  exact ⟨script, by simp [hscripts], cause, hfailure, rfl⟩

/-- Where each script has code, every selection of known names compiles. -/
theorem Buildable.exists_compile (h : Buildable c registry) (hknown : s.Known c) :
    ∃ fragments, compile c registry s = .ok fragments :=
  exists_compile_eq_ok_iff.2 ⟨hknown, fun script hscript =>
    h script ((selected_sublist c s).subset hscript)⟩

/-- Behind any history a selection compiles to what it does at first. -/
theorem fst_compileWith_memoAfter (c : Collection) (registry : Template.Registry)
    (history : List Operation) (s : Selection) :
    (compileWith c registry (memoAfter c registry history) s).1 = compile c registry s := by
  obtain ⟨memo, -, h⟩ := exists_compileWith (sound_memoAfter c registry history) s
  rw [h]

end Compilation

/-! ## Listing -/

namespace Command

/-- What there is to say about a script that a walk visits. -/
def summary (c : Collection) (visit : List String × Script) : Except CompileError Summary :=
  (compiledScript c Pipe.standard .forward visit.2).map fun compiled =>
    Summary.ofScript visit.1 visit.2 compiled.2

/-- Scripts that compile in a row are summed up one by one. -/
theorem mapM_summary (visits : List (List String × Script)) :
    ((visits.map Prod.snd).mapM (compiledScript c Pipe.standard .forward)).map (fun compiled =>
        List.zipWith (fun (trail, script) (_, code) => Summary.ofScript trail script code)
          visits compiled) =
      visits.mapM (summary c) := by
  induction visits with
  | nil => rfl
  | cons visit rest ih =>
    rw [List.map_cons, Stepwise.mapM_cons, Stepwise.mapM_cons, ← ih, summary]
    cases compiledScript c Pipe.standard .forward visit.2 with
    | error e => rfl
    | ok compiled =>
      cases (rest.map Prod.snd).mapM (compiledScript c Pipe.standard .forward) <;> rfl

/-- A list sums up the scripts compiled in a row. -/
theorem summaries_eq_map (c : Collection) :
    summaries c = (c.scripts.mapM (compiledScript c Pipe.standard .forward)).map fun compiled =>
      List.zipWith (fun (trail, script) (_, code) => Summary.ofScript trail script code)
        c.walk compiled := by
  have hsound : Memo.Sound c Pipe.standard [] := Memo.sound_nil
  obtain ⟨memo, -, h⟩ := exists_resolveScripts hsound .forward c.scripts
  rw [summaries, h]

/-- What there is to list is what there is to say about each script on a walk. -/
theorem summaries_eq (c : Collection) : summaries c = c.walk.mapM (summary c) := by
  rw [summaries_eq_map, Collection.scripts, mapM_summary]

/-- There is something to say about a script exactly where it has code. -/
theorem exists_summary_iff {visit : List String × Script} :
    (∃ summary', summary c visit = .ok summary') ↔
      ∃ code, scriptCode c Pipe.standard visit.2 = .ok code := by
  rw [summary, compiledScript]
  cases scriptCode c Pipe.standard visit.2 <;> simp [Except.map]

/-- There is a list of the scripts exactly where each of them has code. -/
theorem exists_summaries_iff :
    (∃ summaries', summaries c = .ok summaries') ↔ Buildable c Pipe.standard := by
  rw [summaries_eq, Stepwise.exists_mapM_eq_ok_iff, Buildable, Collection.scripts]
  simp only [exists_summary_iff, List.forall_mem_map]

/-- Shows a list. -/
def shown (c : Collection) (summaries : List Summary) (encoded : Bool) : Report :=
  match display c summaries encoded with
  | .error fault => .brokenOff (.markup fault)
  | .ok text => .saying text

/-- What is shown is no error. -/
theorem err_shown (c : Collection) (summaries : List Summary) (encoded : Bool) :
    (shown c summaries encoded).err = "" := by
  rw [shown]
  split
  · rfl
  · rw [Report.saying]
    split <;> rfl

/-- The list of a collection that is found: its scripts, or the error for the first of them
that has no code. -/
theorem list_of_find {w : Workspace} {platform : Option Platform} {file : Option Path}
    {opened : Opened} (h : Opened.find w platform file = .ok opened) (encoded : Bool) :
    list w platform file encoded = Report.after "" opened.notes
      (match summaries opened.collection with
        | .error e => .ofObstacle (.ofCompileError e)
        | .ok summaries => shown opened.collection summaries encoded) := by
  rw [list, h]
  rfl

end Command

/-! ## From everything to each selection -/

/-- If everything in a collection compiles once, in one direction and behind any history,
then every selection of known names compiles, in both directions, behind any other history
and without one; and the list of the scripts shows all of them, without an error. -/
theorem compiles_and_lists_of_everything {direction : Direction}
    {earlier : List Compilation.Operation} {fragments : List Fragment}
    (h : (compileWith c registry (memoAfter c registry earlier) (.everything direction)).1 =
      .ok fragments) :
    (∀ (history : List Compilation.Operation) (s : Selection), s.Known c →
      ∃ fragments', (compileWith c registry (memoAfter c registry history) s).1 =
        .ok fragments') ∧
    (registry = Pipe.standard → ∃ summaries, Command.summaries c = .ok summaries ∧
      summaries.map Summary.name = c.scripts.map Script.name ∧
      ∀ w platform file encoded opened, Opened.find w platform file = .ok opened →
        opened.collection = c →
        Command.list w platform file encoded =
          Report.after "" opened.notes (Command.shown c summaries encoded) ∧
        (Command.list w platform file encoded).err = opened.notes) := by
  rw [fst_compileWith_memoAfter] at h
  have hbuildable := (exists_compile_everything_iff direction).1 ⟨fragments, h⟩
  constructor
  · intro history s hknown
    rw [fst_compileWith_memoAfter]
    exact hbuildable.exists_compile hknown
  · rintro rfl
    obtain ⟨summaries, hsummaries⟩ := Command.exists_summaries_iff.2 hbuildable
    refine ⟨summaries, hsummaries, Command.names_of_summaries hsummaries, ?_⟩
    rintro w platform file encoded opened hfind rfl
    have hlist := Command.list_of_find hfind encoded
    rw [hsummaries] at hlist
    refine ⟨hlist, ?_⟩
    rw [hlist, Report.after, Command.err_shown, String.append_empty]

/-- In the sample everything compiles, and so the services are reverted as well, behind
another compilation. -/
theorem sample_services_compile :
    (∃ fragments', (compileWith sample Pipe.standard
      (memoAfter sample Pipe.standard [.compile .all])
      ⟨none, some ["Services"], none, .revert⟩).1 = .ok fragments') ∧
    ∃ summaries, Command.summaries sample = .ok summaries := by
  have h : (compileWith sample Pipe.standard (memoAfter sample Pipe.standard [])
      (.everything .forward)).1 = .ok [⟨"Clear history", "clear", none, .forward⟩,
        ⟨"Stop service", "stop", some "start", .forward⟩] := by decide +kernel
  have hcompiles := compiles_and_lists_of_everything h
  refine ⟨hcompiles.1 _ _ ⟨?_, ?_⟩, ?_⟩
  · rintro names ⟨⟩
  · rintro categories ⟨⟩ name hname
    rw [List.mem_singleton] at hname
    obtain ⟨k, hk, hsame⟩ : ∃ k ∈ sample.categories, k.name = "Services" := by decide
    exact ⟨k, Collection.mem_categories_iff.1 hk, hsame.trans hname.symm⟩
  · obtain ⟨summaries, hsummaries, -⟩ := hcompiles.2 rfl
    exact ⟨summaries, hsummaries⟩

end Tweaks
