import Tweaks.Proofs.Buildable

/-!
# What a selection emits

Of the fragments of a selection only the first with each text is kept.  Which fragment that
is hangs on what else is selected, and so does the order; but the texts that are emitted are
the texts of all selected scripts, apart from the empty one.  So what is emitted follows what
is selected: more scripts give more texts, and two selections together give the texts of
both.

Main results:

- `mem_texts_keep`: keeping the first fragment of each text loses no text.
- `mem_texts_iff`: the texts that a selection emits, script by script.
- `exists_compile_of_takesIn`: what a wider selection emits takes in what is emitted by a
  narrower one.
- `joins_of_selected`: two selections in one.
- `selections_distribute`: names, categories and levels together.
-/

namespace Tweaks

open Compilation

/-! ## Emitted texts -/

namespace Compilation

variable {c : Collection} {registry : Template.Registry} {s s' both : Selection}

/-- The texts that fragments stand for. -/
def texts (fragments : List Fragment) : List String :=
  fragments.map Fragment.text

/-- A script stands for a text in a direction. -/
def Gives (c : Collection) (registry : Template.Registry) (direction : Direction)
    (script : Script) (text : String) : Prop :=
  ∃ code, scriptCode c registry script = .ok code ∧ (fragment direction script code).text = text

/-- Keeping the first fragment of each text loses no text, but for the empty one and those
that were met before. -/
theorem mem_texts_keep {seen : List String} {fragments : List Fragment} {text : String} :
    text ∈ texts (keep seen fragments) ↔ text ∈ texts fragments ∧ text ≠ "" ∧ text ∉ seen := by
  induction fragments generalizing seen with
  | nil => simp [texts]
  | cons f rest ih =>
    have hcons : text ∈ texts (f :: rest) ↔ text = f.text ∨ text ∈ texts rest := by
      simp [texts]
    rw [keep, hcons]
    by_cases hskip : f.text = "" ∨ f.text ∈ seen
    · have hcond : (f.text.isEmpty || seen.contains f.text) = true := by simpa using hskip
      rw [hcond, if_pos rfl, ih]
      constructor
      · rintro ⟨hrest, hfresh⟩
        exact ⟨.inr hrest, hfresh⟩
      · rintro ⟨rfl | hrest, hsome, hnew⟩
        · exact absurd hskip (not_or.2 ⟨hsome, hnew⟩)
        · exact ⟨hrest, hsome, hnew⟩
    · have hcond : (f.text.isEmpty || seen.contains f.text) = false := by simpa using hskip
      have hkept : text ∈ texts (f :: keep (f.text :: seen) rest) ↔
          text = f.text ∨ text ∈ texts (keep (f.text :: seen) rest) := by
        simp [texts]
      rw [hcond, if_neg (by simp), hkept, ih]
      obtain ⟨hsome, hnew⟩ := not_or.1 hskip
      constructor
      · rintro (rfl | ⟨hrest, hsome', hnew'⟩)
        · exact ⟨.inl rfl, hsome, hnew⟩
        · exact ⟨.inr hrest, hsome', fun hseen => hnew' (List.mem_cons_of_mem _ hseen)⟩
      · rintro ⟨htext, hsome', hnew'⟩
        by_cases hfirst : text = f.text
        · exact .inl hfirst
        · refine .inr ⟨htext.resolve_left hfirst, hsome', ?_⟩
          exact fun hseen => hnew' ((List.mem_cons.1 hseen).resolve_left hfirst)

/-- A selection emits the texts of the scripts that it selects, apart from the empty one. -/
theorem mem_texts_iff {fragments : List Fragment} (h : compile c registry s = .ok fragments)
    {text : String} : text ∈ texts fragments ↔
      text ≠ "" ∧ ∃ script ∈ selected c s, Gives c registry s.direction script text := by
  have hcheck := check_eq_ok_iff.2 (exists_compile_eq_ok_iff.1 ⟨fragments, h⟩).1
  rw [compile_eq, hcheck] at h
  obtain ⟨codes, hcodes, rfl⟩ := Stepwise.exists_of_map_eq_ok h
  obtain ⟨hselected, hcode⟩ := mapM_compiledScript_eq_ok_iff.1 hcodes
  have hgives : (∃ compiled ∈ codes,
        (fragment s.direction compiled.1 compiled.2).text = text) ↔
      ∃ script ∈ selected c s, Gives c registry s.direction script text := by
    rw [← hselected]
    constructor
    · rintro ⟨compiled, hmem, htext⟩
      exact ⟨compiled.1, List.mem_map_of_mem hmem, compiled.2, hcode _ hmem, htext⟩
    · rintro ⟨script, hscript, code, hgiven, htext⟩
      obtain ⟨compiled, hmem, rfl⟩ := List.mem_map.1 hscript
      cases hgiven.symm.trans (hcode _ hmem)
      exact ⟨compiled, hmem, htext⟩
  rw [mem_texts_keep, ← hgives, texts, List.map_map, List.mem_map]
  simp [and_comm]

/-! ## Wider selections -/

/-- A script is selected where a walk meets it and it matches. -/
theorem mem_selected_iff {script : Script} : script ∈ selected c s ↔
    ∃ trail, (trail, script) ∈ c.walk ∧ s.matchesScript trail script = true := by
  simp [selected]

/-- Every script of a collection that matches one selection matches the other. -/
def TakesIn (c : Collection) (wide narrow : Selection) : Prop :=
  ∀ visit ∈ c.walk, narrow.matchesScript visit.1 visit.2 = true →
    wide.matchesScript visit.1 visit.2 = true

/-- A selection that takes in another one selects all that the other does. -/
theorem TakesIn.subset (h : TakesIn c s' s) : selected c s ⊆ selected c s' := by
  intro script hscript
  obtain ⟨trail, hwalk, hmatches⟩ := mem_selected_iff.1 hscript
  exact mem_selected_iff.2 ⟨trail, hwalk, h _ hwalk hmatches⟩

/-- Where a selection compiles, so does each of known names that it takes in, in the same
direction, and emits no other texts. -/
theorem exists_compile_of_takesIn (htakes : TakesIn c s' s) (hknown : s.Known c)
    (hdirection : s.direction = s'.direction) {fragments' : List Fragment}
    (h : compile c registry s' = .ok fragments') :
    ∃ fragments, compile c registry s = .ok fragments ∧ texts fragments ⊆ texts fragments' := by
  have hcodes := (exists_compile_eq_ok_iff.1 ⟨fragments', h⟩).2
  obtain ⟨fragments, hfragments⟩ : ∃ fragments, compile c registry s = .ok fragments :=
    exists_compile_eq_ok_iff.2 ⟨hknown, fun script hscript => hcodes _ (htakes.subset hscript)⟩
  refine ⟨fragments, hfragments, fun text htext => ?_⟩
  obtain ⟨hsome, script, hscript, hgives⟩ := (mem_texts_iff hfragments).1 htext
  rw [hdirection] at hgives
  exact (mem_texts_iff h).2 ⟨hsome, script, htakes.subset hscript, hgives⟩

/-! ## Two selections in one -/

/-- A selection compiles exactly where two others do, and then emits what they emit. -/
structure Joins (c : Collection) (registry : Template.Registry) (s s' both : Selection) :
    Prop where
  compiles : (∃ fragments, compile c registry both = .ok fragments) ↔
    (∃ fragments, compile c registry s = .ok fragments) ∧
      ∃ fragments, compile c registry s' = .ok fragments
  emits : ∀ {first second together : List Fragment}, compile c registry s = .ok first →
    compile c registry s' = .ok second → compile c registry both = .ok together →
      ∀ text, text ∈ texts together ↔ text ∈ texts first ∨ text ∈ texts second

/-- A selection of what two others select, and of the names that they ask for, joins them. -/
theorem joins_of_selected (hdirection : s.direction = both.direction)
    (hdirection' : s'.direction = both.direction)
    (hknown : both.Known c ↔ s.Known c ∧ s'.Known c)
    (hselected : ∀ script, script ∈ selected c both ↔
      script ∈ selected c s ∨ script ∈ selected c s') : Joins c registry s s' both where
  compiles := by
    simp only [exists_compile_eq_ok_iff, hknown, hselected, or_imp, forall_and]
    exact and_and_and_comm
  emits := by
    intro first second together hfirst hsecond htogether text
    rw [mem_texts_iff hfirst, mem_texts_iff hsecond, mem_texts_iff htogether, hdirection,
      hdirection']
    simp only [hselected, or_and_right, exists_or, and_or_left]

/-- Scripts that match one or the other of two selections are the ones that they select. -/
theorem mem_selected_iff_or (h : ∀ trail script, both.matchesScript trail script = true ↔
      s.matchesScript trail script = true ∨ s'.matchesScript trail script = true)
    (script : Script) :
    script ∈ selected c both ↔ script ∈ selected c s ∨ script ∈ selected c s' := by
  simp only [mem_selected_iff, h, and_or_left, exists_or]

/-- What holds of all names of one list holds of those of two others that make it up. -/
theorem forall_mem_iff_of_union {names names' all : List String}
    (hall : ∀ name, name ∈ all ↔ name ∈ names ∨ name ∈ names') {p : String → Prop} :
    (∀ name ∈ all, p name) ↔ (∀ name ∈ names, p name) ∧ ∀ name ∈ names', p name := by
  simp only [hall, or_imp, forall_and]

/-- Selected names of scripts are known one by one. -/
theorem known_names_iff {names : List String} : { s with names := some names }.Known c ↔
    (∀ name ∈ names, ∃ script ∈ c.scripts, script.name = name) ∧
      { s with names := none }.Known c := by
  constructor
  · intro h
    exact ⟨h.scripts names rfl, ⟨by rintro _ ⟨⟩, h.categories⟩⟩
  · rintro ⟨hnames, h⟩
    refine ⟨?_, h.categories⟩
    rintro _ ⟨⟩
    exact hnames

/-- Selected names of categories are known one by one. -/
theorem known_categories_iff {names : List String} : { s with categories := some names }.Known c ↔
    (∀ name ∈ names, ∃ k, c.HasCategory k ∧ k.name = name) ∧
      { s with categories := none }.Known c := by
  constructor
  · intro h
    exact ⟨h.categories names rfl, ⟨h.scripts, by rintro _ ⟨⟩⟩⟩
  · rintro ⟨hnames, h⟩
    refine ⟨h.scripts, ?_⟩
    rintro _ ⟨⟩
    exact hnames

/-- Selecting by the names of two lists joins selecting by each of them. -/
theorem joins_names (s : Selection) {names names' all : List String}
    (hall : ∀ name, name ∈ all ↔ name ∈ names ∨ name ∈ names') :
    Joins c registry { s with names := some names } { s with names := some names' }
      { s with names := some all } := by
  refine joins_of_selected rfl rfl ?_ (mem_selected_iff_or fun trail script => ?_)
  · rw [known_names_iff, known_names_iff, known_names_iff, forall_mem_iff_of_union hall]
    exact and_and_right
  · simp only [Selection.matchesScript, Selection.takes, Selection.takesName,
      Selection.takesTrail, Selection.takesLevel, List.contains_eq_mem, Bool.and_eq_true,
      decide_eq_true_eq, hall, or_and_right]

/-- Selecting by the categories of two lists joins selecting by each of them. -/
theorem joins_categories (s : Selection) {names names' all : List String}
    (hall : ∀ name, name ∈ all ↔ name ∈ names ∨ name ∈ names') :
    Joins c registry { s with categories := some names } { s with categories := some names' }
      { s with categories := some all } := by
  refine joins_of_selected rfl rfl ?_ (mem_selected_iff_or fun trail script => ?_)
  · rw [known_categories_iff, known_categories_iff, known_categories_iff,
      forall_mem_iff_of_union hall]
    exact and_and_right
  · have htrail : trail.any all.contains = true ↔
        trail.any names.contains = true ∨ trail.any names'.contains = true := by
      simp only [List.any_eq_true, List.contains_eq_mem, decide_eq_true_eq, hall, and_or_left,
        exists_or]
    simp only [Selection.matchesScript, Selection.takes, Selection.takesName,
      Selection.takesTrail, Selection.takesLevel, Bool.and_eq_true, htrail, or_and_right,
      and_or_left]

/-! ## Levels -/

/-- At the strict level all scripts are selected that are selected without a level. -/
theorem matchesScript_strict (s : Selection) (trail : List String) (script : Script) :
    { s with level := some .strict }.matchesScript trail script =
      { s with level := none }.matchesScript trail script := by
  simp [Selection.matchesScript, Selection.takes, Selection.takesName, Selection.takesTrail,
    Selection.takesLevel]

/-- The strict level compiles to what no level does. -/
theorem compile_strict (s : Selection) :
    compile c registry { s with level := some .strict } =
      compile c registry { s with level := none } := by
  have hselected : selected c { s with level := some .strict } =
      selected c { s with level := none } := by
    simp only [selected, matchesScript_strict]
  have hcheck : check c { s with level := some .strict } = check c { s with level := none } := rfl
  rw [compile_eq, compile_eq, hcheck, hselected]

/-- The strict level takes in the standard one. -/
theorem strict_takesIn_standard (s : Selection) :
    TakesIn c { s with level := some .strict } { s with level := some .standard } := by
  rintro ⟨trail, script⟩ - hmatches
  simp only [Selection.matchesScript, Selection.takes, Bool.and_eq_true] at hmatches ⊢
  exact ⟨hmatches.1, by simp [Selection.takesLevel]⟩

/-! ## All together -/

/-- Selecting by two sets of names, of scripts or of categories, compiles exactly where
selecting by each set does, and emits the texts of both.  A selection of known names that
selects no more than one that compiles does compile, in the same direction, and emits no
more; so it is with the standard level and the strict one, which comes to the same as no
level. -/
theorem selections_distribute (c : Collection) (registry : Template.Registry) :
    (∀ (s : Selection) (names names' all : List String),
      (∀ name, name ∈ all ↔ name ∈ names ∨ name ∈ names') →
        Joins c registry { s with names := some names } { s with names := some names' }
            { s with names := some all } ∧
          Joins c registry { s with categories := some names }
            { s with categories := some names' } { s with categories := some all }) ∧
    (∀ s s' : Selection, s.direction = s'.direction → s.Known c → TakesIn c s' s →
      ∀ fragments', compile c registry s' = .ok fragments' → ∃ fragments,
        compile c registry s = .ok fragments ∧ texts fragments ⊆ texts fragments') ∧
    (∀ (s : Selection) (strict : List Fragment),
      compile c registry { s with level := some .strict } = .ok strict → ∃ standard,
        compile c registry { s with level := some .standard } = .ok standard ∧
          texts standard ⊆ texts strict) ∧
    ∀ s : Selection, compile c registry { s with level := some .strict } =
      compile c registry { s with level := none } := by
  refine ⟨fun s names names' all hall => ⟨joins_names s hall, joins_categories s hall⟩, ?_, ?_,
    compile_strict⟩
  · intro s s' hdirection hknown htakes fragments' h
    exact exists_compile_of_takesIn htakes hknown hdirection h
  · intro s strict h
    have hstrict := (exists_compile_eq_ok_iff.1 ⟨strict, h⟩).1
    have hstandard : { s with level := some .standard }.Known c :=
      ⟨hstrict.scripts, hstrict.categories⟩
    exact exists_compile_of_takesIn (strict_takesIn_standard s) hstandard rfl h

/-- In the sample the two scripts, selected together, give the texts of both; and at the
standard level, without the inner category's script, there is no more than one of them. -/
theorem sample_distributes :
    (∃ together, compile sample Pipe.standard
        ⟨some ["Stop service", "Clear history"], none, none, .forward⟩ = .ok together ∧
      ∀ text, text ∈ texts together ↔ text ∈ ["clear"] ∨ text ∈ ["stop"]) ∧
    ∃ standard, compile sample Pipe.standard ⟨none, none, some .standard, .forward⟩ =
        .ok standard ∧ texts standard ⊆ ["clear", "stop"] := by
  have hclear : compile sample Pipe.standard ⟨some ["Clear history"], none, none, .forward⟩ =
      .ok [⟨"Clear history", "clear", none, .forward⟩] := by decide +kernel
  have hstop : compile sample Pipe.standard ⟨some ["Stop service"], none, none, .forward⟩ =
      .ok [⟨"Stop service", "stop", some "start", .forward⟩] := by decide
  have hall : compile sample Pipe.standard ⟨none, none, some .strict, .forward⟩ =
      .ok [⟨"Clear history", "clear", none, .forward⟩,
        ⟨"Stop service", "stop", some "start", .forward⟩] := by decide +kernel
  obtain ⟨hjoins, -, hlevels, -⟩ := selections_distribute sample Pipe.standard
  constructor
  · have hboth := (hjoins ⟨none, none, none, .forward⟩ ["Clear history"] ["Stop service"]
      ["Stop service", "Clear history"] (by simp [or_comm])).1
    obtain ⟨together, htogether⟩ := hboth.compiles.2 ⟨⟨_, hclear⟩, _, hstop⟩
    exact ⟨together, htogether, hboth.emits hclear hstop htogether⟩
  · exact hlevels ⟨none, none, none, .forward⟩ _ hall

end Compilation

end Tweaks
