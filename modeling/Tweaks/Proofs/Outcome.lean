import Tweaks.Pipe
import Tweaks.Proofs.Diagnosis
import Tweaks.Proofs.Subtree

/-!
# What a selection compiles to

The outcome of compiling, told from the document and from what each script is on its
own: which scripts are selected by where they stand, and which of the reasons to fail
comes first.  Compiling goes through the scripts once, with a memo and the texts it has
met; it comes to exactly that outcome.

Main results:

- `matchesScript_iff`: on a walk, a script matches exactly where it is selected.
- `mem_unknown_scripts`, `mem_unknown_categories`: what a selection is checked for.
- `keep_eq_distinct`: which fragments are kept.
- `outcome_compile`, `compile_eq_of_outcome`: compiling has an outcome, and no other.
- `compileWith_eq_iff_outcome`: the two together, behind any history of operations.
-/

namespace Tweaks

open Compilation

/-! ## Selected scripts -/

/-- A script is selected: by its name, by a category that contains it, and by its level. -/
structure Selection.Selects (c : Collection) (s : Selection) (script : Script) : Prop where
  name : ∀ names, s.names = some names → script.name ∈ names
  category : ∀ categories, s.categories = some categories →
    ∃ k, c.HasCategory k ∧ k.name ∈ categories ∧ k.Holds script
  level : ∀ level, s.level = some level →
    ∀ recommend, script.recommend = some recommend → recommend.rank ≤ level.rank

namespace Selection

variable {c : Collection} {s : Selection}

theorem takesName_iff {name : String} :
    s.takesName name = true ↔ ∀ names, s.names = some names → name ∈ names := by
  rw [takesName]
  cases s.names <;> simp

theorem takesTrail_iff {trail : List String} :
    s.takesTrail trail = true ↔
      ∀ categories, s.categories = some categories → ∃ name ∈ trail, name ∈ categories := by
  rw [takesTrail]
  cases s.categories <;> simp

theorem takesLevel_iff {recommend : Option Level} :
    s.takesLevel recommend = true ↔ ∀ level, s.level = some level →
      ∀ other, recommend = some other → other.rank ≤ level.rank := by
  rw [takesLevel]
  cases s.level with
  | none => simp
  | some level => cases recommend <;> simp [Level.includes]

/-- On a walk through a collection without repeated names, a script matches with the
names on the way to it exactly where it is selected. -/
theorem matchesScript_iff (hnodup : (c.scripts.map Script.name).Nodup) {trail : List String}
    {script : Script} (hwalk : (trail, script) ∈ c.walk) :
    s.matchesScript trail script = true ↔ s.Selects c script := by
  have htrail : (∀ categories, s.categories = some categories →
      ∃ name ∈ trail, name ∈ categories) ↔ ∀ categories, s.categories = some categories →
        ∃ k, c.HasCategory k ∧ k.name ∈ categories ∧ k.Holds script := by
    refine forall₂_congr fun categories _ => ⟨?_, ?_⟩
    · rintro ⟨name, hname, hmem⟩
      obtain ⟨k, hk, rfl, hholds⟩ := (Collection.mem_trail_iff hnodup hwalk).1 hname
      exact ⟨k, hk, hmem, hholds⟩
    · rintro ⟨k, hk, hmem, hholds⟩
      exact ⟨k.name, (Collection.mem_trail_iff hnodup hwalk).2 ⟨k, hk, rfl, hholds⟩, hmem⟩
  rw [matchesScript, takes, Bool.and_eq_true, Bool.and_eq_true, takesName_iff, takesTrail_iff,
    takesLevel_iff, htrail, and_assoc]
  constructor
  · rintro ⟨hname, hcategory, hlevel⟩
    exact ⟨hname, hcategory, hlevel⟩
  · rintro ⟨hname, hcategory, hlevel⟩
    exact ⟨hname, hcategory, hlevel⟩

/-- A name is selected that no script has. -/
def MissesScript (c : Collection) (s : Selection) (name : String) : Prop :=
  (∃ names, s.names = some names ∧ name ∈ names) ∧ ∀ script ∈ c.scripts, script.name ≠ name

/-- A name of a category is selected that no category has. -/
def MissesCategory (c : Collection) (s : Selection) (name : String) : Prop :=
  (∃ categories, s.categories = some categories ∧ name ∈ categories) ∧
    ∀ k, c.HasCategory k → k.name ≠ name

end Selection

namespace Compilation

open Resolution

variable {c : Collection} {registry : Template.Registry} {s : Selection}

open Classical in
/-- The selected scripts, in the order of the document. -/
noncomputable def selectedScripts (c : Collection) (s : Selection) : List Script :=
  c.scripts.filter fun script => s.Selects c script

/-- The scripts that are compiled are the selected ones. -/
theorem selected_eq (hnodup : (c.scripts.map Script.name).Nodup) (s : Selection) :
    selected c s = selectedScripts c s := by
  rw [selected, selectedScripts, Collection.scripts, List.filter_map]
  congr 1
  refine List.filter_congr fun visit hvisit => ?_
  obtain ⟨trail, script⟩ := visit
  rw [Bool.eq_iff_iff, Selection.matchesScript_iff hnodup hvisit]
  simp

/-- The selected scripts are those of the collection that the selection selects. -/
theorem mem_selectedScripts_iff {script : Script} :
    script ∈ selectedScripts c s ↔ script ∈ c.scripts ∧ s.Selects c script := by
  simp [selectedScripts]

/-! ## Unknown names -/

/-- What the check of a selection finds is sorted. -/
theorem pairwise_unknown (known : List String) (names : Option (List String)) :
    (unknown known names).Pairwise (· < ·) :=
  Text.pairwise_sortDistinct _

/-- The unknown names are the selected ones that are not known. -/
theorem mem_unknown_iff {known : List String} {names : Option (List String)} {name : String} :
    name ∈ unknown known names ↔
      (∃ given, names = some given ∧ name ∈ given) ∧ name ∉ known := by
  cases names <;> simp [unknown]

theorem mem_unknown_scripts {name : String} :
    name ∈ unknown (c.scripts.map Script.name) s.names ↔ s.MissesScript c name := by
  rw [mem_unknown_iff, Selection.MissesScript, List.mem_map]
  simp only [not_exists, not_and, ne_eq]

theorem mem_unknown_categories {name : String} :
    name ∈ unknown (c.categories.map Category.name) s.categories ↔ s.MissesCategory c name := by
  rw [mem_unknown_iff, Selection.MissesCategory, List.mem_map]
  simp only [Collection.mem_categories_iff, not_exists, not_and, ne_eq]

/-- Sorted lists with the same names are the same. -/
theorem eq_of_sorted {names names' : List String} (h : names.Pairwise (· < ·))
    (h' : names'.Pairwise (· < ·)) (hmem : ∀ name, name ∈ names ↔ name ∈ names') :
    names = names' := by
  have hnodup {l : List String} (hl : l.Pairwise (· < ·)) : l.Nodup := by
    refine hl.imp ?_
    rintro a b hlt rfl
    exact String.lt_irrefl a hlt
  have hperm := (List.perm_ext_iff_of_nodup (hnodup h) (hnodup h')).2 hmem
  refine hperm.eq_of_pairwise (fun a b _ _ hab hba => ?_) h h'
  exact absurd hba (String.lt_asymm hab)

/-! ## Kept fragments -/

/-- The fragments with a text, and of those with the same text only the first. -/
def distinct (fragments : List Fragment) : List Fragment :=
  (fragments.filter fun f => f.text ≠ "").eraseDupsBy fun f g => f.text == g.text

/-- The kept fragments are those with a text that was not met before, and of those with
the same text only the first. -/
theorem keep_eq (seen : List String) (fragments : List Fragment) :
    keep seen fragments =
      (fragments.filter fun f => f.text ≠ "" ∧ f.text ∉ seen).eraseDupsBy
        fun f g => f.text == g.text := by
  induction fragments generalizing seen with
  | nil => rfl
  | cons f rest ih =>
    rw [keep]
    by_cases hf : f.text ≠ "" ∧ f.text ∉ seen
    · have hcond : (f.text.isEmpty || seen.contains f.text) = false := by simp [hf]
      rw [hcond, List.filter_cons_of_pos (by simpa using hf), List.eraseDupsBy_cons,
        List.filter_filter]
      simp only [Bool.false_eq_true, ↓reduceIte, List.cons.injEq, true_and]
      rw [ih]
      congr 1
      refine List.filter_congr fun g _ => ?_
      by_cases hg : g.text = f.text <;> simp [hg]
    · have hcond : (f.text.isEmpty || seen.contains f.text) = true := by
        simp only [ne_eq, not_and, not_not] at hf
        by_cases hempty : f.text = ""
        · simp [hempty]
        · simp [hf hempty]
      rw [hcond, List.filter_cons_of_neg (by simpa using hf), ih]
      rfl

/-- Where no text was met before, the distinct fragments are kept. -/
theorem keep_eq_distinct (fragments : List Fragment) : keep [] fragments = distinct fragments := by
  rw [keep_eq, distinct]
  simp

/-! ## Outcomes -/

/-- What a selection compiles to. -/
inductive Outcome (c : Collection) (registry : Template.Registry) (s : Selection) :
    Except CompileError (List Fragment) → Prop where
  /-- Names are selected that no script has. -/
  | unknownScripts (names : List String) (hsome : names ≠ [])
      (hsorted : names.Pairwise (· < ·)) (hnames : ∀ name, name ∈ names ↔ s.MissesScript c name) :
      Outcome c registry s (.error (.unknownScripts names))
  /-- All scripts are known, but names are selected that no category has. -/
  | unknownCategories (hscripts : ∀ name, ¬s.MissesScript c name) (names : List String)
      (hsome : names ≠ []) (hsorted : names.Pairwise (· < ·))
      (hnames : ∀ name, name ∈ names ↔ s.MissesCategory c name) :
      Outcome c registry s (.error (.unknownCategories names))
  /-- The selected scripts up to one have code, and that one does not resolve. -/
  | failed (hscripts : ∀ name, ¬s.MissesScript c name)
      (hcategories : ∀ name, ¬s.MissesCategory c name) (before : List Script) (script : Script)
      (after : List Script) (hselected : selectedScripts c s = before ++ script :: after)
      (hbefore : ∀ earlier ∈ before, ∃ code, scriptCode c registry earlier = .ok code)
      (cause : ResolutionError) (hcause : scriptCode c registry script = .error (.error cause)) :
      Outcome c registry s (.error (.script script.name s.direction (.error cause)))
  /-- All selected scripts have code. -/
  | compiled (hscripts : ∀ name, ¬s.MissesScript c name)
      (hcategories : ∀ name, ¬s.MissesCategory c name) (codes : List (Script × Resolved))
      (hselected : codes.map Prod.fst = selectedScripts c s)
      (hcodes : ∀ compiled ∈ codes, scriptCode c registry compiled.1 = .ok compiled.2) :
      Outcome c registry s
        (.ok (distinct (codes.map fun (script, code) => fragment s.direction script code)))

/-! ## Compiling comes to its outcome -/

/-- No unknown names are found where none are missed. -/
theorem unknown_scripts_eq_nil (h : ∀ name, ¬s.MissesScript c name) :
    unknown (c.scripts.map Script.name) s.names = [] :=
  List.eq_nil_iff_forall_not_mem.2 fun name hname => h name (mem_unknown_scripts.1 hname)

/-- No unknown categories are found where none are missed. -/
theorem unknown_categories_eq_nil (h : ∀ name, ¬s.MissesCategory c name) :
    unknown (c.categories.map Category.name) s.categories = [] :=
  List.eq_nil_iff_forall_not_mem.2 fun name hname => h name (mem_unknown_categories.1 hname)

/-- A selection whose names are all known passes the check. -/
theorem check_eq_ok (hscripts : ∀ name, ¬s.MissesScript c name)
    (hcategories : ∀ name, ¬s.MissesCategory c name) : check c s = .ok () := by
  rw [check, unknown_scripts_eq_nil hscripts, unknown_categories_eq_nil hcategories]

/-- The check finds unknown names before it looks for unknown categories. -/
theorem check_eq_unknownScripts {names : List String}
    (h : unknown (c.scripts.map Script.name) s.names = names) (hsome : names ≠ []) :
    check c s = .error (.unknownScripts names) := by
  rw [check, h]
  split
  · exact absurd rfl hsome
  · exact absurd rfl hsome
  · rfl

/-- The check finds unknown categories where there are no unknown names. -/
theorem check_eq_unknownCategories {names : List String}
    (hscripts : ∀ name, ¬s.MissesScript c name)
    (h : unknown (c.categories.map Category.name) s.categories = names) (hsome : names ≠ []) :
    check c s = .error (.unknownCategories names) := by
  rw [check, unknown_scripts_eq_nil hscripts, h]
  split
  · exact absurd rfl hsome
  · rfl
  · contradiction

/-- A script is compiled to itself with its code. -/
theorem compiledScript_eq_ok_iff {direction : Direction} {script : Script}
    {compiled : Script × Resolved} :
    compiledScript c registry direction script = .ok compiled ↔
      compiled.1 = script ∧ scriptCode c registry compiled.1 = .ok compiled.2 := by
  obtain ⟨other, code⟩ := compiled
  rw [compiledScript]
  constructor
  · intro h
    split at h
    · cases h
    · next hcode => cases h; exact ⟨rfl, hcode⟩
  · rintro ⟨rfl, hcode⟩
    dsimp only at hcode ⊢
    rw [hcode]

/-- Scripts compile in a row exactly where each has code. -/
theorem mapM_compiledScript_eq_ok_iff {direction : Direction} {scripts : List Script}
    {codes : List (Script × Resolved)} :
    scripts.mapM (compiledScript c registry direction) = .ok codes ↔
      codes.map Prod.fst = scripts ∧
        ∀ compiled ∈ codes, scriptCode c registry compiled.1 = .ok compiled.2 := by
  rw [Stepwise.mapM_eq_ok_iff]
  induction scripts generalizing codes with
  | nil => cases codes <;> simp
  | cons script rest ih =>
    cases codes with
    | nil => simp
    | cons compiled codes =>
      rw [List.map_cons, List.map_cons, List.cons.injEq, compiledScript_eq_ok_iff, ih,
        List.map_cons, List.cons.injEq, List.forall_mem_cons, and_and_and_comm]

/-- A script fails to compile for the reason for which it has no code. -/
theorem compiledScript_eq_error_iff {direction : Direction} {script : Script}
    {e : CompileError} :
    compiledScript c registry direction script = .error e ↔
      ∃ failure, scriptCode c registry script = .error failure ∧
        e = .script script.name direction failure := by
  rw [compiledScript]
  cases scriptCode c registry script with
  | error failure => simp [eq_comm]
  | ok code => simp

/-- Compiling has an outcome. -/
theorem outcome_compile (hloaded : c.Loaded) (registry : Template.Registry) (s : Selection) :
    Outcome c registry s (compile c registry s) := by
  rw [compile_eq]
  by_cases hscripts : ∀ name, ¬s.MissesScript c name
  · by_cases hcategories : ∀ name, ¬s.MissesCategory c name
    · rw [check_eq_ok hscripts hcategories, selected_eq hloaded.scripts_nodup]
      dsimp only
      cases hcodes : (selectedScripts c s).mapM (compiledScript c registry s.direction) with
      | error e =>
        obtain ⟨before, script, after, hselected, hbefore, hfails⟩ :=
          Stepwise.exists_first_of_mapM_eq_error hcodes
        obtain ⟨failure, hfailure, rfl⟩ := compiledScript_eq_error_iff.1 hfails
        obtain ⟨cause, rfl⟩ := exists_error_of_scriptCode hloaded hfailure
        refine .failed hscripts hcategories before script after hselected ?_ cause hfailure
        intro earlier hearlier
        obtain ⟨compiled, hcompiled⟩ := hbefore earlier hearlier
        obtain ⟨rfl, hcode⟩ := compiledScript_eq_ok_iff.1 hcompiled
        exact ⟨compiled.2, hcode⟩
      | ok codes =>
        obtain ⟨hselected, hcode⟩ := mapM_compiledScript_eq_ok_iff.1 hcodes
        rw [Except.map, keep_eq_distinct]
        exact .compiled hscripts hcategories codes hselected hcode
    · obtain ⟨name, hname⟩ := not_forall.1 hcategories
      have hsome := List.ne_nil_of_mem (mem_unknown_categories.2 (not_not.1 hname))
      rw [check_eq_unknownCategories hscripts rfl hsome]
      exact .unknownCategories hscripts _ hsome (pairwise_unknown _ _)
        fun _ => mem_unknown_categories
  · obtain ⟨name, hname⟩ := not_forall.1 hscripts
    have hsome := List.ne_nil_of_mem (mem_unknown_scripts.2 (not_not.1 hname))
    rw [check_eq_unknownScripts rfl hsome]
    exact .unknownScripts _ hsome (pairwise_unknown _ _) fun _ => mem_unknown_scripts

/-- Compiling comes to no other outcome. -/
theorem compile_eq_of_outcome (hloaded : c.Loaded) {result : Except CompileError (List Fragment)}
    (h : Outcome c registry s result) : compile c registry s = result := by
  rw [compile_eq]
  cases h with
  | unknownScripts names hsome hsorted hnames =>
    have hunknown := eq_of_sorted (pairwise_unknown (c.scripts.map Script.name) s.names) hsorted
      fun name => mem_unknown_scripts.trans (hnames name).symm
    rw [check_eq_unknownScripts hunknown hsome]
  | unknownCategories hscripts names hsome hsorted hnames =>
    have hunknown := eq_of_sorted
      (pairwise_unknown (c.categories.map Category.name) s.categories) hsorted
      fun name => mem_unknown_categories.trans (hnames name).symm
    rw [check_eq_unknownCategories hscripts hunknown hsome]
  | failed hscripts hcategories before script after hselected hbefore cause hcause =>
    have hfails : (selectedScripts c s).mapM (compiledScript c registry s.direction) =
        .error (.script script.name s.direction (.error cause)) := by
      rw [hselected]
      refine Stepwise.mapM_eq_error_of_first ?_ ?_
      · intro earlier hearlier
        obtain ⟨code, hcode⟩ := hbefore earlier hearlier
        exact ⟨(earlier, code), compiledScript_eq_ok_iff.2 ⟨rfl, hcode⟩⟩
      · exact compiledScript_eq_error_iff.2 ⟨_, hcause, rfl⟩
    rw [check_eq_ok hscripts hcategories, selected_eq hloaded.scripts_nodup, hfails]
    rfl
  | compiled hscripts hcategories codes hselected hcodes =>
    have hcompiled : (selectedScripts c s).mapM (compiledScript c registry s.direction) =
        .ok codes := mapM_compiledScript_eq_ok_iff.2 ⟨hselected, hcodes⟩
    rw [check_eq_ok hscripts hcategories, selected_eq hloaded.scripts_nodup, hcompiled]
    dsimp only [Except.map]
    rw [keep_eq_distinct]

/-- Behind any history of operations with the same memo, a selection of a decoded
collection compiles to its outcome and to nothing else. -/
theorem compileWith_eq_iff_outcome {d : Document} {c : Collection}
    (h : Collection.ofDocument d = .ok c) (registry : Template.Registry)
    (history : List Operation) (s : Selection) (result : Except CompileError (List Fragment)) :
    (compileWith c registry (memoAfter c registry history) s).1 = result ↔
      Outcome c registry s result := by
  have hloaded := Decode.loaded_of_ofDocument h
  obtain ⟨memo, -, hcompile⟩ := exists_compileWith (sound_memoAfter c registry history) s
  rw [hcompile]
  constructor
  · rintro rfl
    exact outcome_compile hloaded registry s
  · exact compile_eq_of_outcome hloaded

/-- In the sample, reverting an inner category comes to the code for its one script, also
behind a compilation of everything. -/
theorem sample_outcome :
    Collection.ofDocument sampleDocument = .ok sample ∧
    Outcome sample Pipe.standard ⟨none, some ["Services"], none, .revert⟩
      (.ok [⟨"Stop service", "stop", some "start", .revert⟩]) :=
  ⟨ofDocument_sample, (compileWith_eq_iff_outcome ofDocument_sample Pipe.standard
    [.compile (.everything .forward)] _ _).1 (by decide)⟩

end Compilation

end Tweaks
