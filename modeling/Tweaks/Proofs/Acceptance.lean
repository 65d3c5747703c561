import Tweaks.Proofs.Schema

/-!
# Which documents are decoded

Decoding succeeds with the documents of collections, and with no others.  For every part
there is one lemma: it is decoded exactly where its document is of the kind it should be.
Calls and bodies are decoded together with what holds of their texts, since those of
functions have to be templates and those of scripts need not.

Main results:

- `exists_call_iff`, `exists_body_iff`: calls and bodies, with texts that fit.
- `exists_parameters_iff`, `exists_function_iff`, `exists_script_iff`: functions and scripts.
- `exists_category_and_children_iff`: categories, by induction over the tree.
- `checkNames_eq_ok_iff_named`: the names that are compared are all there are.
- `decodes_exactly_collections`: which documents are decoded.
-/

namespace Tweaks

namespace Decode

open Stepwise Document Schema

/-! ## Values -/

section Values

variable {α : Type} {v : Document} {entries : Entries} {field : String} (place : Location)

/-- Texts that say something are decoded. -/
theorem exists_filledText_iff : (∃ text, filledText place v = .ok text) ↔ IsName v := by
  simp only [filledText_eq_ok_iff, IsName]

/-- Needed names are decoded. -/
theorem exists_requiredName_iff (h : v.entries? = some entries) :
    (∃ text, requiredName place entries field = .ok text) ↔ v.Needs field IsName := by
  simp only [requiredName_eq_ok_iff, Needs, IsName, field?_of_entries h]
  constructor
  · rintro ⟨text, hget, hblank⟩
    exact ⟨_, hget, text, rfl, hblank⟩
  · rintro ⟨_, hget, text, rfl, hblank⟩
    exact ⟨text, hget, hblank⟩

/-- Needed texts are decoded. -/
theorem exists_requiredText_iff (h : v.entries? = some entries) :
    (∃ text, requiredText place entries field = .ok text) ↔ v.Needs field IsText := by
  rw [needs_iff h (by simp [IsText])]
  simp only [requiredText, bind_eq_ok_iff, required_eq_ok_iff, anyText_eq_ok_iff, IsText]
  constructor
  · rintro ⟨text, value, hvalue, htext⟩
    exact ⟨value, hvalue, text, htext⟩
  · rintro ⟨value, hvalue, text, htext⟩
    exact ⟨text, value, hvalue, htext⟩

/-- Allowed texts are decoded. -/
theorem exists_optionalText_iff (h : v.entries? = some entries) :
    (∃ text, optionalText place entries field = .ok text) ↔ v.Allows field IsText := by
  rw [allows_iff h]
  simp only [optionalText_eq_ok_iff]
  cases entries.present? field with
  | none => exact ⟨fun _ value hvalue => (by cases hvalue), fun _ => ⟨none, rfl⟩⟩
  | some value =>
    constructor
    · rintro ⟨text, htext⟩ other hother
      cases hother
      cases text with
      | none => cases htext
      | some text => exact ⟨text, Option.some.inj htext⟩
    · intro hfits
      obtain ⟨text, rfl⟩ := hfits value rfl
      exact ⟨some text, rfl⟩

/-- Lists are decoded, to things with a property, where their items are. -/
theorem exists_each_with_iff {decode : Location → Document → Result α} {P : α → Prop}
    {fits : Document → Prop} {items : List Document}
    (hdecode : ∀ site item, (∃ a, decode site item = .ok a ∧ P a) ↔ fits item) {i : Nat} :
    (∃ results, each decode place i items = .ok results ∧ ∀ a ∈ results, P a) ↔
      ∀ item ∈ items, fits item := by
  induction items generalizing i with
  | nil => exact ⟨fun _ => by simp, fun _ => ⟨[], rfl, by simp⟩⟩
  | cons item rest ih =>
    rw [List.forall_mem_cons, ← hdecode (place.item i) item, ← ih (i := i + 1)]
    constructor
    · rintro ⟨results, hresults, hP⟩
      obtain ⟨first, hfirst, hresults⟩ := exists_of_bind_eq_ok hresults
      obtain ⟨others, hothers, hresults⟩ := exists_of_bind_eq_ok hresults
      cases hresults
      obtain ⟨hPfirst, hPothers⟩ := List.forall_mem_cons.1 hP
      exact ⟨⟨first, hfirst, hPfirst⟩, others, hothers, hPothers⟩
    · rintro ⟨⟨first, hfirst, hPfirst⟩, others, hothers, hPothers⟩
      refine ⟨first :: others, ?_, List.forall_mem_cons.2 ⟨hPfirst, hPothers⟩⟩
      rw [each, bind_of_eq_ok hfirst, bind_of_eq_ok hothers]
      rfl

/-- Lists are decoded where their items are. -/
theorem exists_each_iff {decode : Location → Document → Result α} {fits : Document → Prop}
    {items : List Document}
    (hdecode : ∀ site item, (∃ a, decode site item = .ok a) ↔ fits item) {i : Nat} :
    (∃ results, each decode place i items = .ok results) ↔ ∀ item ∈ items, fits item := by
  rw [← exists_each_with_iff (P := fun _ => True) place (i := i)
    (fun site item => by simpa using hdecode site item)]
  simp

/-- What may be missing or null is decoded where it is allowed. -/
theorem exists_present_iff {decode : Option Document → Result α} {fits : Document → Prop}
    (h : v.entries? = some entries) (hnone : ∃ a, decode none = .ok a)
    (hsome : ∀ w, (∃ a, decode (some w) = .ok a) ↔ fits w) :
    (∃ a, decode (entries.present? field) = .ok a) ↔ v.Allows field fits := by
  rw [allows_iff h]
  cases entries.present? field with
  | none => exact ⟨fun _ value hvalue => (by cases hvalue), fun _ => hnone⟩
  | some value => simp [hsome]

/-- What may count as nothing is decoded, to something with a property, where it fills its
field. -/
theorem exists_filled_iff {decode : Document → Result (List α)} {P : List α → Prop}
    {fits : Document → Prop} (h : v.entries? = some entries) (hnil : P [])
    (hdecode : ∀ w, (∃ items, decode w = .ok items ∧ P items) ↔ fits w) :
    (∃ items, (match filled? entries field with
        | some value => decode value
        | none => .ok []) = .ok items ∧ P items) ↔ v.Fills field fits := by
  rw [fills_iff h]
  cases filled? entries field with
  | none => exact ⟨fun _ value hvalue => (by cases hvalue), fun _ => ⟨[], rfl, hnil⟩⟩
  | some value => simp [hdecode]

/-- A listing may count as nothing. -/
theorem exists_listing_iff {fits : Document → Prop} {name : String}
    (h : v.entries? = some entries) :
    (∃ items, (match filled? entries field with
        | some value => list place value
        | none => .ok []) = .ok items ∧
      (∀ item ∈ items, fits item) ∧ (textsUnder name items).Nodup) ↔
      v.Fills field (IsListing fits name) :=
  exists_filled_iff h ⟨by simp, List.nodup_nil⟩ fun w => by simp only [list_eq_ok_iff, IsListing]

/-- Documentation is decoded where it is some. -/
theorem exists_docs_some_iff : (∃ texts, docs place (some v) = .ok texts) ↔ IsDocs v := by
  rw [docs.eq_def]
  split
  · next hnone => cases hnone
  · next text htext =>
    cases htext
    exact ⟨fun _ => .inl ⟨text, rfl⟩, fun _ => ⟨[text], rfl⟩⟩
  · next other hother hsome =>
    cases hsome
    have hname : ∀ site item, (∃ text, filledText site item = .ok text) ↔ IsName item :=
      fun site _ => exists_filledText_iff site
    constructor
    · rintro ⟨texts, h⟩
      obtain ⟨items, hitems, h⟩ := exists_of_bind_eq_ok h
      exact .inr ⟨items, list_eq_ok_iff.1 hitems, (exists_each_iff place hname).1 ⟨texts, h⟩⟩
    · rintro (⟨text, rfl⟩ | ⟨items, hitems, hnames⟩)
      · exact absurd rfl (hother text)
      · obtain ⟨texts, htexts⟩ := (exists_each_iff place hname).2 hnames
        exact ⟨texts, (bind_of_eq_ok (list_eq_ok_iff.2 hitems) _).trans htexts⟩

/-- Allowed documentation is decoded. -/
theorem exists_docs_iff (h : v.entries? = some entries) :
    (∃ texts, docs place (entries.present? field) = .ok texts) ↔ v.Allows field IsDocs :=
  exists_present_iff h ⟨[], rfl⟩ fun _ => exists_docs_some_iff place

end Values

/-! ## Calls and bodies -/

section Bodies

variable {v : Document} {entries : Entries} {field : String} {fits : String → Prop}
  (place : Location)

/-- Arguments are decoded where their keys and values can be written. -/
theorem exists_arguments_iff {read : List (String × String)} {given : Entries} :
    (∃ texts, arguments place read given = .ok texts) ↔
      (∀ e ∈ given, e.1.plain?.isSome) ∧ ∀ e ∈ given, e.2.scalarText?.isSome := by
  induction given generalizing read with
  | nil => simp [arguments]
  | cons first rest ih =>
    obtain ⟨key, value⟩ := first
    rw [List.forall_mem_cons, List.forall_mem_cons]
    constructor
    · rintro ⟨texts, h⟩
      obtain ⟨name, hname, h⟩ := exists_of_bind_eq_ok h
      obtain ⟨text, htext, h⟩ := exists_of_bind_eq_ok h
      obtain ⟨hkeys, hvalues⟩ := ih.1 ⟨texts, h⟩
      rw [written_eq_ok_iff] at hname
      rw [scalar_eq_ok_iff] at htext
      exact ⟨⟨by rw [hname]; rfl, hkeys⟩, by rw [htext]; rfl, hvalues⟩
    · rintro ⟨⟨hkey, hkeys⟩, hvalue, hvalues⟩
      obtain ⟨name, hname⟩ := Option.isSome_iff_exists.1 hkey
      obtain ⟨text, htext⟩ := Option.isSome_iff_exists.1 hvalue
      obtain ⟨texts, htexts⟩ := ih.2 ⟨hkeys, hvalues⟩
      refine ⟨texts, ?_⟩
      rw [arguments, bind_of_eq_ok (written_eq_ok_iff.2 hname),
        bind_of_eq_ok (scalar_eq_ok_iff.2 htext)]
      exact htexts

/-- Arguments are decoded, to texts that fit, where they are what a call may be given. -/
theorem exists_fitting_arguments_iff {given : Entries} :
    (∃ texts, arguments place [] given = .ok texts ∧ ∀ a ∈ texts, fits a.2) ↔
      IsArguments fits given := by
  constructor
  · rintro ⟨texts, htexts, hfits⟩
    obtain ⟨hkeys, hvalues⟩ := (exists_arguments_iff _).1 ⟨texts, htexts⟩
    refine ⟨hkeys, hvalues, fun name text hpasses => ?_⟩
    exact hfits (name, text) ((mem_arguments_iff (by simp) htexts).2 (.inl hpasses))
  · rintro ⟨hkeys, hvalues, hpassed⟩
    obtain ⟨texts, htexts⟩ := (exists_arguments_iff _).2 ⟨hkeys, hvalues⟩
    refine ⟨texts, htexts, ?_⟩
    rintro ⟨name, text⟩ ha
    rcases (mem_arguments_iff (by simp) htexts).1 ha with hpasses | ⟨hnone, -⟩
    · exact hpassed name text hpasses
    · cases hnone

/-- Nothing is passed on by nothing. -/
theorem isArguments_nil : IsArguments fits [] :=
  ⟨by simp, by simp, fun _ _ hpasses => nomatch hpasses⟩

/-- What a call is given is decoded where it is what a call may be given. -/
theorem exists_given_iff (h : v.entries? = some entries) :
    (∃ given, (match filled? entries field with
        | some value => mapping place value
        | none => .ok []) = .ok given ∧ IsArguments fits given) ↔
      v.Fills field fun w => ∃ given, w.entries? = some given ∧ IsArguments fits given :=
  exists_filled_iff h isArguments_nil fun w => by simp only [mapping_eq_ok_iff]

/-- Calls are decoded, with arguments that fit. -/
theorem exists_call_iff :
    (∃ c, call place v = .ok c ∧ ∀ a ∈ c.arguments, fits a.2) ↔ IsCall fits v := by
  constructor
  · rintro ⟨c, h, hfits⟩
    obtain ⟨entries, hmapping, h⟩ := exists_of_bind_eq_ok h
    have hentries := mapping_eq_ok_iff.1 hmapping
    obtain ⟨function, hfunction, h⟩ := exists_of_bind_eq_ok h
    obtain ⟨given, hgiven, h⟩ := exists_of_bind_eq_ok h
    obtain ⟨texts, htexts, h⟩ := exists_of_bind_eq_ok h
    cases h
    have harguments := (exists_fitting_arguments_iff _).1 ⟨texts, htexts, hfits⟩
    exact ⟨(exists_requiredName_iff _ hentries).1 ⟨function, hfunction⟩,
      (exists_given_iff _ hentries).1 ⟨given, hgiven, harguments⟩⟩
  · rintro ⟨hfunction, hparameters⟩
    obtain ⟨entries, hentries⟩ := hfunction.exists_entries
    obtain ⟨function, hname⟩ := (exists_requiredName_iff place hentries).2 hfunction
    obtain ⟨given, hgiven, harguments⟩ :=
      (exists_given_iff (place.key "parameters") hentries).2 hparameters
    obtain ⟨texts, htexts, hfits⟩ :=
      (exists_fitting_arguments_iff (place.key "parameters")).2 harguments
    refine ⟨⟨function, texts⟩, ?_, hfits⟩
    rw [call, bind_of_eq_ok (mapping_eq_ok_iff.2 hentries), bind_of_eq_ok hname]
    refine (bind_of_eq_ok hgiven _).trans ?_
    rw [bind_of_eq_ok htexts]
    rfl

/-- Calls are decoded where there is one, or a list of some. -/
theorem exists_calls_iff :
    (∃ called, calls place v = .ok called ∧ ∀ c ∈ called, ∀ a ∈ c.arguments, fits a.2) ↔
      IsCalls fits v := by
  have hcall : ∀ site item, (∃ c, call site item = .ok c ∧ ∀ a ∈ c.arguments, fits a.2) ↔
      IsCall fits item := fun site _ => exists_call_iff site
  rw [calls]
  cases hentries : v.entries? with
  | some entries =>
    have hitems : v.items? = none := items?_of_entries hentries
    constructor
    · rintro ⟨called, h, hfits⟩
      obtain ⟨c, hc, rfl⟩ := exists_of_map_eq_ok h
      exact .inl ((exists_call_iff _).1 ⟨c, hc, hfits c List.mem_cons_self⟩)
    · rintro (hcall | ⟨items, hsome, -⟩)
      · obtain ⟨c, hc, hfits⟩ := (exists_call_iff place).2 hcall
        refine ⟨[c], ?_, by simpa using hfits⟩
        rw [hc]
        rfl
      · rw [hitems] at hsome
        cases hsome
  | none =>
    constructor
    · rintro ⟨called, h, hfits⟩
      obtain ⟨items, hitems, h⟩ := exists_of_bind_eq_ok h
      split at h
      · cases h
      · next hempty =>
        rw [List.isEmpty_iff] at hempty
        refine .inr ⟨items, list_eq_ok_iff.1 hitems, hempty, ?_⟩
        exact (exists_each_with_iff place hcall).1 ⟨called, h, hfits⟩
    · rintro (hcall | ⟨items, hitems, hempty, hcalls⟩)
      · obtain ⟨entries, hsome⟩ := hcall.function.exists_entries
        rw [hentries] at hsome
        cases hsome
      · obtain ⟨called, hcalled, hfits⟩ :=
          (exists_each_with_iff place hcall).2 hcalls
        refine ⟨called, ?_, hfits⟩
        dsimp only
        rw [bind_of_eq_ok (list_eq_ok_iff.2 hitems), if_neg (by simpa using hempty)]
        exact hcalled

/-- A text that is allowed is decoded as far as it is there. -/
theorem exists_of_allows (h : v.entries? = some entries)
    (hallows : v.Allows field fun w => ∃ text, w = .text text ∧ fits text) :
    ∃ source : Option String, entries.present? field = source.map Document.text ∧
      ∀ text, source = some text → fits text := by
  rw [allows_iff h] at hallows
  cases hpresent : entries.present? field with
  | none => exact ⟨none, rfl, by simp⟩
  | some value =>
    obtain ⟨text, rfl, hfits⟩ := hallows value hpresent
    exact ⟨some text, rfl, by simpa using hfits⟩

/-- A text that is decoded as far as it is there is allowed. -/
theorem allows_of_present? (h : v.entries? = some entries) {source : Option String}
    (hpresent : entries.present? field = source.map Document.text)
    (hfits : ∀ text, source = some text → fits text) :
    v.Allows field fun w => ∃ text, w = .text text ∧ fits text := by
  rw [allows_iff h]
  intro value hvalue
  rw [hpresent] at hvalue
  obtain ⟨text, hsource, rfl⟩ := Option.map_eq_some_iff.1 hvalue
  exact ⟨text, rfl, hfits text hsource⟩

/-- A body is decoded, to code and arguments that fit, where it has exactly one of code and
calls. -/
theorem exists_body_iff {isCode isArgument : String → Prop} (owner : Owner) (site : Location)
    (h : v.entries? = some entries) :
    (∃ code revertCode callee called,
      body place owner entries = .ok (code, revertCode, callee) ∧
        optionalCalls site callee = .ok called ∧
        (∀ text, code = some text → isCode text) ∧
        (∀ text, revertCode = some text → isCode text) ∧
        ∀ c ∈ called, ∀ a ∈ c.arguments, isArgument a.2) ↔
      IsBody isCode isArgument v := by
  constructor
  · rintro ⟨code, revertCode, callee, called, hbody, hcalled, hcode, hrevert, harguments⟩
    obtain ⟨hcodeField, hrevertField, hcallField, hone, hundo⟩ := body_eq_ok_iff.1 hbody
    cases callee with
    | none =>
      obtain ⟨source, rfl⟩ : ∃ source, code = some source := by
        rw [← Option.ne_none_iff_exists']
        intro hnone
        cases hone.2 hnone
      refine .code ?_ (allows_of_present? h hrevertField hrevert) ((omits_iff h).2 hcallField)
      exact (needs_iff h (by simp)).2 ⟨_, hcodeField, source, rfl, hcode source rfl⟩
    | some w =>
      cases hone.1 rfl
      cases hundo rfl
      refine .call ((omits_iff h).2 hcodeField) ((omits_iff h).2 hrevertField) ?_
      have hcalls := (exists_calls_iff _).1 ⟨called, hcalled, harguments⟩
      exact ⟨w, field?_of_present? h hcallField, hcalls⟩
  · intro hbody
    cases hbody with
    | code code revertCode call =>
      obtain ⟨value, hvalue, text, rfl, htext⟩ := (needs_iff h (by simp)).1 code
      obtain ⟨source, hsource, hrevert⟩ := exists_of_allows h revertCode
      refine ⟨some text, source, none, [], body_eq_ok_iff.2 ?_, rfl, by simpa using htext, hrevert,
        by simp⟩
      exact ⟨hvalue, hsource, (omits_iff h).1 call, by simp, by simp⟩
    | call code revertCode call =>
      obtain ⟨w, hw, hcalls⟩ := (needs_iff h not_isCalls_null).1 call
      obtain ⟨called, hcalled, harguments⟩ := (exists_calls_iff site).2 hcalls
      refine ⟨none, none, some w, called, body_eq_ok_iff.2 ?_, hcalled, by simp, by simp,
        harguments⟩
      exact ⟨(omits_iff h).1 code, (omits_iff h).1 revertCode, hw, by simp, by simp⟩

end Bodies

/-! ## Functions -/

section Functions

variable {v : Document} {entries : Entries} (place : Location)

/-- Names of parameters are checked for their characters. -/
theorem isParameterName_iff {name : String} :
    isParameterName name = true ↔ IsParameterName name := by
  have hword : ∀ word : List Char,
      (!word.isEmpty && word.all Template.isNameChar) = true ↔ Template.IsName word := by
    intro word
    rw [Bool.and_eq_true, Bool.not_eq_true', List.isEmpty_eq_false_iff, List.all_eq_true]
    exact ⟨fun h => ⟨h.1, h.2⟩, fun h => ⟨h.ne_nil, h.all⟩⟩
  rw [isParameterName, hword]
  split
  · next hlast =>
    constructor
    · intro hname
      exact ⟨_, hname, .inr (List.dropLast_append_getLast? _ hlast).symm⟩
    · rintro ⟨word, hname, hwhole | hline⟩
      · have hfeed := hname.all _ (hwhole ▸ List.mem_of_getLast? hlast)
        exact absurd hfeed (by decide)
      · rwa [hline, List.dropLast_concat]
  · next hlast =>
    constructor
    · intro hname
      exact ⟨_, hname, .inl rfl⟩
    · rintro ⟨word, hname, hwhole | hline⟩
      · rwa [hwhole]
      · exact absurd (by rw [hline, List.getLast?_concat]) hlast

/-- A mark of being optional is decoded where it is true or false. -/
theorem exists_optionalMark_iff (h : v.entries? = some entries) :
    (∃ b, optionalMark place entries = .ok b) ↔
      ∀ value, v.field? "optional" = some value → ∃ b, value = .bool b := by
  rw [optionalMark, field?_of_entries h]
  split
  · next hnone => simp [hnone]
  · next b hsome => simp [hsome]
  · next value hother hsome =>
    simp only [hsome, Option.some.injEq, forall_eq', flaw, reduceCtorEq, exists_false, false_iff]
    rintro ⟨b, rfl⟩
    exact hother b rfl

/-- A default value is decoded where it is a scalar. -/
theorem exists_defaultValue_iff (h : v.entries? = some entries) :
    (∃ text, defaultValue place entries = .ok text) ↔
      ∀ value, v.field? "default" = some value → value.scalarText?.isSome := by
  rw [defaultValue, field?_of_entries h]
  split
  · next hnone => simp [hnone]
  · next value hsome =>
    simp only [hsome, Option.some.injEq, forall_eq']
    constructor
    · rintro ⟨text, h⟩
      obtain ⟨decoded, hdecoded, -⟩ := exists_of_map_eq_ok h
      rw [scalar_eq_ok_iff.1 hdecoded]
      rfl
    · intro hscalar
      obtain ⟨text, htext⟩ := Option.isSome_iff_exists.1 hscalar
      exact ⟨some text, by rw [scalar_eq_ok_iff.2 htext]; rfl⟩

/-- Parameters are decoded. -/
theorem exists_parameter_iff : (∃ p, parameter place v = .ok p) ↔ IsParameter v := by
  constructor
  · rintro ⟨p, h⟩
    obtain ⟨entries, hmapping, h⟩ := exists_of_bind_eq_ok h
    have hentries := mapping_eq_ok_iff.1 hmapping
    obtain ⟨name, hname, h⟩ := exists_of_bind_eq_ok h
    split at h
    · cases h
    · next hvalid =>
      obtain ⟨optional, hoptional, h⟩ := exists_of_bind_eq_ok h
      obtain ⟨value, hdefault, -⟩ := exists_of_bind_eq_ok h
      rw [Bool.not_eq_true', Bool.not_eq_false, isParameterName_iff] at hvalid
      refine ⟨⟨_, ?_, name, rfl, hvalid⟩, (exists_optionalMark_iff _ hentries).1 ⟨_, hoptional⟩,
        (exists_defaultValue_iff _ hentries).1 ⟨_, hdefault⟩⟩
      rw [field?_of_entries hentries]
      exact (requiredName_eq_ok_iff.1 hname).1
  · rintro ⟨⟨_, hget, name, rfl, hname⟩, hoptional, hdefault⟩
    obtain ⟨entries, hentries, hget⟩ := field?_eq_some.1 hget
    obtain ⟨optional, hoptional⟩ := (exists_optionalMark_iff place hentries).2 hoptional
    obtain ⟨value, hdefault⟩ := (exists_defaultValue_iff place hentries).2 hdefault
    refine ⟨⟨name, optional || value.isSome, value⟩, ?_⟩
    rw [parameter, bind_of_eq_ok (mapping_eq_ok_iff.2 hentries),
      bind_of_eq_ok (requiredName_eq_ok_iff.2 ⟨hget, hname.not_isBlankText⟩),
      isParameterName_iff.2 hname, bind_of_eq_ok hoptional, bind_of_eq_ok hdefault]
    rfl

/-- Lists of parameters are decoded where their names are distinct, and new. -/
theorem exists_parameters_iff (function : String) (i : Nat) (seen : List String)
    {items : List Document} :
    (∃ params, parameters function place i seen items = .ok params) ↔
      (∀ item ∈ items, IsParameter item) ∧
        (textsUnder "name" items).Nodup ∧ ∀ name ∈ textsUnder "name" items, name ∉ seen := by
  induction items generalizing i seen with
  | nil => simp [parameters, textsUnder]
  | cons item rest ih =>
    constructor
    · rintro ⟨params, h⟩
      obtain ⟨p, hp, h⟩ := exists_of_bind_eq_ok h
      split at h
      · cases h
      · next hnew =>
        obtain ⟨others, hothers, h⟩ := exists_of_bind_eq_ok h
        obtain ⟨hrest, hnodup, hunseen⟩ := (ih _ _).1 ⟨others, hothers⟩
        rw [List.contains_iff_mem] at hnew
        rw [textsUnder_cons_of_eq_some (fieldText?_of_parameter hp), List.nodup_cons,
          List.forall_mem_cons, List.forall_mem_cons]
        refine ⟨⟨(exists_parameter_iff _).1 ⟨p, hp⟩, hrest⟩, ⟨?_, hnodup⟩, hnew, ?_⟩
        · intro hmem
          exact hunseen p.name hmem List.mem_cons_self
        · intro name hname hmem
          exact hunseen name hname (List.mem_cons_of_mem _ hmem)
    · rintro ⟨hitems, hnodup, hunseen⟩
      obtain ⟨hitem, hrest⟩ := List.forall_mem_cons.1 hitems
      obtain ⟨p, hp⟩ := (exists_parameter_iff (place.item i)).2 hitem
      rw [textsUnder_cons_of_eq_some (fieldText?_of_parameter hp)] at hnodup hunseen
      obtain ⟨hother, hnodup⟩ := List.nodup_cons.1 hnodup
      obtain ⟨hnew, hunseen⟩ := List.forall_mem_cons.1 hunseen
      obtain ⟨others, hothers⟩ : ∃ others,
          parameters function place (i + 1) (p.name :: seen) rest = .ok others := by
        refine (ih _ _).2 ⟨hrest, hnodup, fun name hname => ?_⟩
        rw [List.mem_cons, not_or]
        refine ⟨?_, hunseen name hname⟩
        rintro rfl
        exact hother hname
      rw [← List.contains_iff_mem] at hnew
      refine ⟨p :: others, ?_⟩
      rw [parameters, bind_of_eq_ok hp, if_neg hnew, bind_of_eq_ok hothers]
      rfl

/-- The check of a call's arguments succeeds where they are templates. -/
theorem checkArguments_eq_ok_iff {arguments : List (String × String)} :
    checkArguments place arguments = .ok () ↔ ∀ a ∈ arguments, IsTemplate a.2 := by
  induction arguments with
  | nil => simp [checkArguments]
  | cons first rest ih =>
    rw [checkArguments, bind_eq_ok_iff, List.forall_mem_cons, ← ih]
    constructor
    · rintro ⟨t, ht, hrest⟩
      exact ⟨⟨t, parse_of_template ht⟩, hrest⟩
    · rintro ⟨⟨t, ht⟩, hrest⟩
      exact ⟨t, by rw [template, ht], hrest⟩

/-- The check of calls succeeds where all arguments are templates. -/
theorem checkCalls_eq_ok_iff {site : Nat → Location} {i : Nat} {called : List Call} :
    checkCalls site i called = .ok () ↔
      ∀ c ∈ called, ∀ a ∈ c.arguments, IsTemplate a.2 := by
  induction called generalizing i with
  | nil => simp [checkCalls]
  | cons first rest ih =>
    rw [checkCalls, bind_eq_ok_iff, List.forall_mem_cons, ← ih (i := i + 1),
      ← checkArguments_eq_ok_iff (site i)]
    exact ⟨fun ⟨_, hfirst, hrest⟩ => ⟨hfirst, hrest⟩, fun ⟨hfirst, hrest⟩ => ⟨_, hfirst, hrest⟩⟩

/-- Sources are decoded where they are templates. -/
theorem exists_optionalTemplate_iff {source : Option String} :
    (∃ t, optionalTemplate place source = .ok t) ↔
      ∀ text, source = some text → IsTemplate text := by
  cases source with
  | none => simp [optionalTemplate]
  | some text =>
    constructor
    · rintro ⟨t, h⟩ _ ⟨⟩
      obtain ⟨parsed, hparsed, -⟩ := exists_of_map_eq_ok h
      exact ⟨parsed, parse_of_template hparsed⟩
    · intro h
      obtain ⟨t, ht⟩ := h text rfl
      exact ⟨some t, by rw [optionalTemplate, template, ht]; rfl⟩

/-- Functions are decoded. -/
theorem exists_function_iff (place : Location) (v : Document) :
    (∃ f, function place v = .ok f) ↔ IsFunction v := by
  constructor
  · rintro ⟨f, h⟩
    obtain ⟨entries, hmapping, h⟩ := exists_of_bind_eq_ok h
    have hentries := mapping_eq_ok_iff.1 hmapping
    obtain ⟨name, hname, h⟩ := exists_of_bind_eq_ok h
    obtain ⟨declared, hdeclared, h⟩ := exists_of_bind_eq_ok h
    obtain ⟨params, hparams, h⟩ := exists_of_bind_eq_ok h
    obtain ⟨⟨code, revertCode, callee⟩, hbody, h⟩ := exists_of_bind_eq_ok h
    obtain ⟨called, hcalled, h⟩ := exists_of_bind_eq_ok h
    obtain ⟨⟨⟩, hcheck, h⟩ := exists_of_bind_eq_ok h
    obtain ⟨codeTemplate, hcode, h⟩ := exists_of_bind_eq_ok h
    obtain ⟨revertTemplate, hrevert, -⟩ := exists_of_bind_eq_ok h
    constructor
    · exact (exists_requiredName_iff _ hentries).1 ⟨name, hname⟩
    · obtain ⟨hitems, hnodup, -⟩ := (exists_parameters_iff _ _ _ _).1 ⟨params, hparams⟩
      exact (exists_listing_iff _ hentries).1 ⟨declared, hdeclared, hitems, hnodup⟩
    · exact (exists_body_iff _ _ _ hentries).1 ⟨code, revertCode, callee, called, hbody, hcalled,
        (exists_optionalTemplate_iff _).1 ⟨_, hcode⟩,
        (exists_optionalTemplate_iff _).1 ⟨_, hrevert⟩, checkCalls_eq_ok_iff.1 hcheck⟩
  · rintro ⟨hname, hparameters, hbody⟩
    obtain ⟨entries, hentries⟩ := hname.exists_entries
    obtain ⟨name, hname⟩ := (exists_requiredName_iff place hentries).2 hname
    obtain ⟨declared, hdeclared, hitems, hnodup⟩ :=
      (exists_listing_iff (place.key "parameters") hentries).2 hparameters
    obtain ⟨params, hparams⟩ :=
      (exists_parameters_iff (place.key "parameters") name 0 []).2 ⟨hitems, hnodup, by simp⟩
    obtain ⟨code, revertCode, callee, called, hbody, hcalled, hcode, hrevert, harguments⟩ :=
      (exists_body_iff place (.function name) (place.key "call") hentries).2 hbody
    obtain ⟨codeTemplate, hcode⟩ :=
      (exists_optionalTemplate_iff (place.key "code")).2 hcode
    obtain ⟨revertTemplate, hrevert⟩ :=
      (exists_optionalTemplate_iff (place.key "revertCode")).2 hrevert
    refine ⟨⟨name, params, codeTemplate, revertTemplate, called⟩, ?_⟩
    rw [function, bind_of_eq_ok (mapping_eq_ok_iff.2 hentries), bind_of_eq_ok hname]
    refine (bind_of_eq_ok hdeclared _).trans ?_
    rw [bind_of_eq_ok hparams, bind_of_eq_ok hbody]
    dsimp only
    rw [bind_of_eq_ok hcalled, bind_of_eq_ok (checkCalls_eq_ok_iff.2 harguments),
      bind_of_eq_ok hcode, bind_of_eq_ok hrevert]
    rfl

end Functions

/-! ## Scripts and categories -/

section Categories

variable {v : Document} {entries : Entries} (place : Location)

/-- A recommendation level is decoded where it is the name of one. -/
theorem exists_level_some_iff :
    (∃ recommend, level place (some v) = .ok recommend) ↔
      ∃ level : Level, v = .text level.name := by
  rw [level.eq_def]
  dsimp only
  split
  · next recommend hnamed =>
    refine ⟨fun _ => ⟨recommend, ?_⟩, fun _ => ⟨some recommend, rfl⟩⟩
    split at hnamed
    · rw [Level.ofName?_eq_some.1 hnamed]
    · cases hnamed
  · next hnone =>
    constructor
    · rintro ⟨recommend, h⟩
      obtain ⟨shown, -, h⟩ := exists_of_bind_eq_ok h
      cases h
    · rintro ⟨recommend, rfl⟩
      dsimp only at hnone
      rw [Level.ofName?_name] at hnone
      cases hnone

/-- An allowed recommendation level is decoded. -/
theorem exists_level_iff (h : v.entries? = some entries) :
    (∃ recommend, level place (entries.present? "recommend") = .ok recommend) ↔
      v.Allows "recommend" fun w => ∃ level : Level, w = .text level.name :=
  exists_present_iff h ⟨none, rfl⟩ fun _ => exists_level_some_iff place

/-- Scripts are decoded. -/
theorem exists_script_iff : (∃ s, script place v = .ok s) ↔ IsScript v := by
  constructor
  · rintro ⟨s, h⟩
    obtain ⟨entries, hmapping, h⟩ := exists_of_bind_eq_ok h
    have hentries := mapping_eq_ok_iff.1 hmapping
    obtain ⟨name, hname, h⟩ := exists_of_bind_eq_ok h
    obtain ⟨⟨code, revertCode, callee⟩, hbody, h⟩ := exists_of_bind_eq_ok h
    obtain ⟨recommend, hrecommend, h⟩ := exists_of_bind_eq_ok h
    obtain ⟨called, hcalled, h⟩ := exists_of_bind_eq_ok h
    obtain ⟨documentation, hdocs, -⟩ := exists_of_bind_eq_ok h
    constructor
    · exact (exists_requiredName_iff _ hentries).1 ⟨name, hname⟩
    · exact (exists_body_iff _ _ _ hentries).1 ⟨code, revertCode, callee, called, hbody, hcalled,
        fun _ _ => trivial, fun _ _ => trivial, fun _ _ _ _ => trivial⟩
    · exact (exists_level_iff _ hentries).1 ⟨recommend, hrecommend⟩
    · exact (exists_docs_iff _ hentries).1 ⟨documentation, hdocs⟩
  · rintro ⟨hname, hbody, hrecommend, hdocs⟩
    obtain ⟨entries, hentries⟩ := hname.exists_entries
    obtain ⟨name, hname⟩ := (exists_requiredName_iff place hentries).2 hname
    obtain ⟨code, revertCode, callee, called, hbody, hcalled, -⟩ :=
      (exists_body_iff place (.script name) (place.key "call") hentries).2 hbody
    obtain ⟨recommend, hrecommend⟩ :=
      (exists_level_iff (place.key "recommend") hentries).2 hrecommend
    obtain ⟨documentation, hdocs⟩ := (exists_docs_iff (place.key "docs") hentries).2 hdocs
    refine ⟨⟨name, code, revertCode, called, recommend, documentation⟩, ?_⟩
    rw [script, bind_of_eq_ok (mapping_eq_ok_iff.2 hentries), bind_of_eq_ok hname,
      bind_of_eq_ok hbody]
    dsimp only
    rw [bind_of_eq_ok hrecommend, bind_of_eq_ok hcalled, bind_of_eq_ok hdocs]
    rfl

/-- The check of names succeeds where they are distinct. -/
theorem checkDistinct_eq_ok_iff {items : List Document} :
    checkDistinct place (namesIn "category" 0 items) = .ok () ↔
      (textsUnder "category" items).Nodup := by
  rw [← map_snd_namesIn "category" 0, checkDistinct]
  cases hrepeat : firstRepeat? [] (namesIn "category" 0 items) with
  | none => exact ⟨fun _ => (firstRepeat?_eq_none.1 hrepeat).1, fun _ => rfl⟩
  | some k =>
    constructor
    · intro h
      cases h
    · intro hnodup
      rw [firstRepeat?_eq_none.2 ⟨hnodup, by simp⟩] at hrepeat
      cases hrepeat

/-- Documents that may be children: they have exactly one of the two keys, and describe what
it says. -/
def IsChild (v : Document) : Prop :=
  ((v.field? "category").isSome ↔ v.field? "name" = none) ∧
    ((v.field? "category").isSome → IsCategory v) ∧ ((v.field? "name").isSome → IsScript v)

/-- A child is a category or a script, whichever of the two keys it has. -/
theorem isChild_iff :
    IsChild v ↔
      (v.field? "category").isSome ∧ v.field? "name" = none ∧ IsCategory v ∨
        (v.field? "name").isSome ∧ v.field? "category" = none ∧ IsScript v := by
  rw [IsChild]
  cases v.field? "category" <;> cases v.field? "name" <;> simp

/-- A category is decoded, if its children are. -/
theorem exists_category_iff_of_children
    (hchildren : ∀ value items, v.field? "children" = some value → value.items? = some items →
      ((∃ contents, children (place.key "children") 0 items = .ok contents) ↔
        ∀ item ∈ items, IsChild item)) :
    (∃ c, category place v = .ok c) ↔ IsCategory v := by
  constructor
  · rintro ⟨c, h⟩
    obtain ⟨entries, value, items, hentries, hname, hvalue, hitems, hsome, hcontents, hdistinct,
      hdocs⟩ := category_eq_ok_iff.1 h
    have hfield := field?_of_present? hentries hvalue
    rw [categoryNames_eq_namesIn hcontents, checkDistinct_eq_ok_iff] at hdistinct
    have hall := (hchildren value items hfield hitems).1 ⟨_, hcontents⟩
    exact .intro ((exists_requiredName_iff _ hentries).1 ⟨_, hname⟩)
      ((exists_docs_iff _ hentries).1 ⟨_, hdocs⟩) hfield hitems hsome
      (fun item hitem => (hall item hitem).1) (fun item hitem => (hall item hitem).2.1)
      (fun item hitem => (hall item hitem).2.2) hdistinct
  · rintro ⟨hname, hdocs, hfield, hitems, hsome, hkey, hcategories, hscripts, hdistinct⟩
    obtain ⟨entries, hentries⟩ := hname.exists_entries
    obtain ⟨name, hname⟩ := (exists_requiredName_iff place hentries).2 hname
    obtain ⟨documentation, hdocs⟩ := (exists_docs_iff (place.key "docs") hentries).2 hdocs
    obtain ⟨contents, hcontents⟩ := (hchildren _ _ hfield hitems).2 fun item hitem =>
      ⟨hkey item hitem, hcategories item hitem, hscripts item hitem⟩
    rw [← checkDistinct_eq_ok_iff (place.key "children"),
      ← categoryNames_eq_namesIn hcontents] at hdistinct
    refine ⟨⟨name, documentation, contents⟩, category_eq_ok_iff.2 ⟨entries, _, _, hentries, hname,
      ?_, hitems, hsome, hcontents, hdistinct, hdocs⟩⟩
    refine present?_of_field? hentries hfield ?_
    rintro rfl
    cases hitems

/-- Children are decoded where the first is one, if a category there is decoded, and the
others are decoded. -/
theorem exists_children_cons_iff {i : Nat} {rest : List Document}
    (hcategory : (∃ c, category (place.item i) v = .ok c) ↔ IsCategory v) :
    (∃ contents, children place i (v :: rest) = .ok contents) ↔
      IsChild v ∧ ∃ others, children place (i + 1) rest = .ok others := by
  rw [isChild_iff, ← hcategory, ← exists_script_iff (place.item i)]
  simp only [children_cons_eq_ok_iff]
  constructor
  · rintro ⟨_, ⟨hsome, hnone, c, hc, others, hothers, -⟩ |
      ⟨hsome, hnone, s, hs, others, hothers, -⟩⟩
    · exact ⟨.inl ⟨hsome, hnone, c, hc⟩, others, hothers⟩
    · exact ⟨.inr ⟨hsome, hnone, s, hs⟩, others, hothers⟩
  · rintro ⟨⟨hsome, hnone, c, hc⟩ | ⟨hsome, hnone, s, hs⟩, others, hothers⟩
    · exact ⟨_, .inl ⟨hsome, hnone, c, hc, others, hothers, rfl⟩⟩
    · exact ⟨_, .inr ⟨hsome, hnone, s, hs, others, hothers, rfl⟩⟩

/-- Categories are decoded, and children. -/
theorem exists_category_and_children_iff :
    (∀ place v, (∃ c, category place v = .ok c) ↔ IsCategory v) ∧
      ∀ place i items, (∃ contents, children place i items = .ok contents) ↔
        ∀ item ∈ items, IsChild item := by
  apply nesting_induction
  case parent =>
    intro place v ih
    exact exists_category_iff_of_children place ih
  case nil =>
    intro place i
    simp [children]
  case cons =>
    intro place i item rest ihCategory ihRest
    rw [List.forall_mem_cons, ← ihRest]
    exact exists_children_cons_iff place ihCategory

end Categories

/-! ## Collections -/

section Collections

variable {d v : Document} {entries : Entries} (place : Location)

/-- Scripting languages are decoded. -/
theorem exists_scripting_iff :
    (∃ language, scripting place v = .ok language) ↔ IsScripting v := by
  constructor
  · rintro ⟨result, h⟩
    obtain ⟨entries, hmapping, h⟩ := exists_of_bind_eq_ok h
    have hentries := mapping_eq_ok_iff.1 hmapping
    obtain ⟨language, hlanguage, h⟩ := exists_of_bind_eq_ok h
    obtain ⟨startCode, hstart, h⟩ := exists_of_bind_eq_ok h
    obtain ⟨endCode, hend, h⟩ := exists_of_bind_eq_ok h
    obtain ⟨extension, hextension, -⟩ := exists_of_bind_eq_ok h
    exact ⟨(exists_requiredName_iff _ hentries).1 ⟨_, hlanguage⟩,
      (exists_requiredText_iff _ hentries).1 ⟨_, hstart⟩,
      (exists_requiredText_iff _ hentries).1 ⟨_, hend⟩,
      (exists_optionalText_iff _ hentries).1 ⟨_, hextension⟩⟩
  · rintro ⟨hlanguage, hstart, hend, hextension⟩
    obtain ⟨entries, hentries⟩ := hlanguage.exists_entries
    obtain ⟨language, hlanguage⟩ := (exists_requiredName_iff place hentries).2 hlanguage
    obtain ⟨startCode, hstart⟩ := (exists_requiredText_iff place hentries).2 hstart
    obtain ⟨endCode, hend⟩ := (exists_requiredText_iff place hentries).2 hend
    obtain ⟨extension, hextension⟩ := (exists_optionalText_iff place hentries).2 hextension
    refine ⟨⟨language, startCode, endCode, extension⟩, ?_⟩
    rw [scripting, bind_of_eq_ok (mapping_eq_ok_iff.2 hentries), bind_of_eq_ok hlanguage,
      bind_of_eq_ok hstart, bind_of_eq_ok hend, bind_of_eq_ok hextension]
    rfl

/-- An allowed scripting language is decoded. -/
theorem exists_optionalScripting_iff (h : d.entries? = some entries) :
    (∃ language, optionalScripting place (entries.present? "scripting") = .ok language) ↔
      d.Allows "scripting" IsScripting := by
  refine exists_present_iff h ⟨none, rfl⟩ fun w => ?_
  rw [← exists_scripting_iff place]
  constructor
  · rintro ⟨language, h⟩
    obtain ⟨decoded, hdecoded, -⟩ := exists_of_map_eq_ok h
    exact ⟨decoded, hdecoded⟩
  · rintro ⟨decoded, hdecoded⟩
    exact ⟨some decoded, by rw [optionalScripting, hdecoded]; rfl⟩

/-- A platform is decoded from its name. -/
theorem platform_eq_ok_iff {name : String} {os : Platform} :
    platform place name = .ok os ↔ name = os.name := by
  rw [platform, ← Platform.ofName?_eq_some]
  cases Platform.ofName? name <;> simp [flaw]

/-- Names of platforms say something. -/
theorem isBlankText_platform (os : Platform) : Text.isBlankText os.name = false := by
  cases os <;> decide

/-- The names of scripts are distinct exactly where no two places have the same. -/
theorem nodup_allScriptPlaces_iff {i : Nat} {actions : List Category} :
    ((allScriptPlaces place i actions).map Prod.snd).Nodup ↔
      ∀ k ∈ allScriptPlaces place i actions, ∀ l ∈ allScriptPlaces place i actions,
        k.2 = l.2 → k.1 = l.1 := by
  have hnodup : (allScriptPlaces place i actions).Nodup := by
    refine (pairwise_allScriptPlaces place i actions).imp ?_
    rintro k l hbefore rfl
    exact Location.not_before_self _ hbefore
  rw [List.nodup_map_iff_inj_on hnodup]
  constructor
  · intro h k hk l hl hname
    rw [h k hk l hl hname]
  · intro h k hk l hl hname
    exact Prod.ext (h k hk l hl hname) hname

/-- The names of decoded categories are distinct exactly where those of the items are. -/
theorem checkDistinct_indexed_eq_ok_iff {items : List Document} {actions : List Category}
    (h : each category place 0 items = .ok actions) :
    checkDistinct place (indexed Category.name 0 actions) = .ok () ↔
      (textsUnder "category" items).Nodup := by
  rw [indexed_eq_namesIn (fun _ _ _ => fieldText?_of_category) h, checkDistinct_eq_ok_iff]

/-- The names of a decoded collection are distinct exactly where those of the document are. -/
theorem checkNames_eq_ok_iff_named {c : Collection} {raw : Document}
    {items definitions : List Document} (hraw : d.field? "actions" = some raw)
    (hitems : raw.items? = some items)
    (hactions : each category [.key "actions"] 0 items = .ok c.actions)
    (hfunctions : each function [.key "functions"] 0 definitions = .ok c.functions) :
    checkNames c = .ok () ↔ (textsUnder "name" definitions).Nodup ∧
      ∀ place place' name, d.Named .script place name → d.Named .script place' name →
        place = place' := by
  rw [checkNames_eq_ok_iff, nodup_allScriptPlaces_iff, ← map_snd_indexed Function.name 0,
    indexed_eq_namesIn (fun _ _ _ => fieldText?_of_function) hfunctions, map_snd_namesIn]
  have hmem := @mem_allScriptPlaces_iff_named d raw items c.actions hraw hitems hactions
  refine and_congr_right fun _ => ⟨?_, ?_⟩
  · intro h site site' name hsite hsite'
    exact h (site, name) (hmem.2 hsite) (site', name) (hmem.2 hsite') rfl
  · rintro h ⟨site, name⟩ hk ⟨site', name'⟩ hl hname
    cases hname
    exact h site site' name (hmem.1 hk) (hmem.1 hl)

/-- Every decoded collection has a document of one. -/
theorem isCollection_of_ofDocument {c : Collection} (h : Collection.ofDocument d = .ok c) :
    IsCollection d := by
  obtain ⟨entries, hmapping, h⟩ := exists_of_bind_eq_ok h
  have hentries := mapping_eq_ok_iff.1 hmapping
  obtain ⟨name, hname, h⟩ := exists_of_bind_eq_ok h
  obtain ⟨os, hos, h⟩ := exists_of_bind_eq_ok h
  obtain ⟨language, hlanguage, h⟩ := exists_of_bind_eq_ok h
  obtain ⟨raw, hraw, h⟩ := exists_of_bind_eq_ok h
  obtain ⟨items, hitems, h⟩ := exists_of_bind_eq_ok h
  rw [list_eq_ok_iff] at hitems
  have hfield := field?_of_present? hentries (required_eq_ok_iff.1 hraw)
  split at h
  · cases h
  next hempty =>
    obtain ⟨actions, hactions, h⟩ := exists_of_bind_eq_ok h
    obtain ⟨⟨⟩, hdistinct, h⟩ := exists_of_bind_eq_ok h
    obtain ⟨definitions, hdefinitions, h⟩ := exists_of_bind_eq_ok h
    obtain ⟨functions, hfunctions, h⟩ := exists_of_bind_eq_ok h
    obtain ⟨⟨⟩, hnames, -⟩ := exists_of_bind_eq_ok h
    obtain ⟨hfunctionNames, hscriptNames⟩ :=
      (checkNames_eq_ok_iff_named hfield hitems hactions hfunctions).1 hnames
    constructor
    · refine ⟨_, ?_, os, rfl⟩
      rw [field?_of_entries hentries, ← (platform_eq_ok_iff _).1 hos]
      exact (requiredName_eq_ok_iff.1 hname).1
    · exact (exists_optionalScripting_iff _ hentries).1 ⟨language, hlanguage⟩
    · refine ⟨raw, hfield, ?_, items, hitems, ?_, ?_⟩
      · rw [hitems]
        rintro ⟨⟩
        exact hempty rfl
      · exact (exists_each_iff _ exists_category_and_children_iff.1).1 ⟨actions, hactions⟩
      · exact (checkDistinct_indexed_eq_ok_iff _ hactions).1 hdistinct
    · exact (exists_listing_iff _ hentries).1 ⟨definitions, hdefinitions,
        (exists_each_iff _ exists_function_iff).1 ⟨functions, hfunctions⟩, hfunctionNames⟩
    · exact hscriptNames

/-- Every document of a collection is decoded. -/
theorem exists_ofDocument_of_isCollection (h : IsCollection d) :
    ∃ c, Collection.ofDocument d = .ok c := by
  obtain ⟨⟨_, hos, os, rfl⟩, hscripting, ⟨raw, hraw, hsome, items, hitems, hcategories, hdistinct⟩,
    hfills, hscriptNames⟩ := h
  obtain ⟨entries, hentries, hos⟩ := field?_eq_some.1 hos
  have hpresent : entries.present? "actions" = some raw := by
    refine present?_of_field? hentries hraw ?_
    rintro rfl
    cases hitems
  have hempty : ¬ items.isEmpty = true := by
    rw [List.isEmpty_iff]
    rintro rfl
    exact hsome hitems
  obtain ⟨language, hlanguage⟩ :=
    (exists_optionalScripting_iff [.key "scripting"] hentries).2 hscripting
  obtain ⟨definitions, hdefinitions, hall, hfunctionNames⟩ :=
    (exists_listing_iff [.key "functions"] hentries).2 hfills
  obtain ⟨actions, hactions⟩ :=
    (exists_each_iff [.key "actions"] exists_category_and_children_iff.1 (i := 0)).2 hcategories
  obtain ⟨functions, hfunctions⟩ :=
    (exists_each_iff [.key "functions"] exists_function_iff (i := 0)).2 hall
  rw [← checkDistinct_indexed_eq_ok_iff _ hactions] at hdistinct
  have hnames : checkNames ⟨os, language, actions, functions⟩ = .ok () :=
    (checkNames_eq_ok_iff_named hraw hitems hactions hfunctions).2 ⟨hfunctionNames, hscriptNames⟩
  refine ⟨⟨os, language, actions, functions⟩, ?_⟩
  rw [Collection.ofDocument, collection, bind_of_eq_ok (mapping_eq_ok_iff.2 hentries),
    bind_of_eq_ok (requiredName_eq_ok_iff.2 ⟨hos, isBlankText_platform os⟩),
    bind_of_eq_ok ((platform_eq_ok_iff _).2 rfl), bind_of_eq_ok hlanguage]
  rw [bind_of_eq_ok (required_eq_ok_iff.2 hpresent), bind_of_eq_ok (list_eq_ok_iff.2 hitems),
    if_neg hempty, bind_of_eq_ok hactions, bind_of_eq_ok hdistinct]
  refine (bind_of_eq_ok hdefinitions _).trans ?_
  rw [bind_of_eq_ok hfunctions]
  dsimp only
  rw [bind_of_eq_ok hnames]
  rfl

end Collections

end Decode

/-- A document is decoded exactly where it is that of a collection. -/
theorem Collection.decodes_exactly_collections (d : Document) :
    (∃ c, Collection.ofDocument d = .ok c) ↔ Schema.IsCollection d := by
  constructor
  · rintro ⟨c, h⟩
    exact Decode.isCollection_of_ofDocument h
  · exact Decode.exists_ofDocument_of_isCollection

end Tweaks
