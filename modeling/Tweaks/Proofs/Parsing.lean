import Tweaks.Proofs.Acceptance
import Tweaks.Proofs.Pointing
import Tweaks.Proofs.Valuing
import Tweaks.Yaml

/-!
# What reading a collection comes to

A text is read as YAML, and the document as a collection.  A text that is not well formed, and
a document that is no collection, are reported with what they are about.  Other texts break
reading off.  They are well formed, but spell a value that there is not, or is not to be had:
the thirteenth month of a year, a character or a number out of reach, a scalar that is spelled
by itself.  Or their documents cannot be gone through: categories lie within themselves, or a
number has to be written that has more digits than may be.

Main results:

- `Decode.overcomes_scalar`, `Decode.overcomes_level`: where numbers are written.
- `Decode.overcomes_category_and_children`: where a document is gone through.
- `Document.hinders_of_ofDocument`: what there is in a document that cannot be gone through.
- `Yaml.unbuildable_of_parse`: why a text that is well formed has no document.
- `Collection.parses_parse`, `Collection.parse_eq_of_parses`: what reading comes to, and that
  it comes to nothing else.
- `Collection.parse_answers_up_to_breakdown`: reading answers with a collection or a report,
  for exactly those texts that do not break it off; `Collection.impossible_date_breaks_off` is
  a text that does.
-/

namespace Tweaks

/-! ## Parts of documents -/

namespace Document

/-- The parts of a document: items of its lists, keys and values of its mappings, at any
depth. -/
inductive Within (d : Document) : Document → Prop
  | whole : Within d d
  | item {v item : Document} {items : List Document} (within : Within d v)
      (list : v.items? = some items) (mem : item ∈ items) : Within d item
  | key {v key value : Document} {entries : Entries} (within : Within d v)
      (mapping : v.entries? = some entries) (mem : (key, value) ∈ entries) : Within d key
  | value {v key value : Document} {entries : Entries} (within : Within d v)
      (mapping : v.entries? = some entries) (mem : (key, value) ∈ entries) : Within d value

/-- What there is in a document that is rejected without a flaw: a part that has no end, or one
with a number that cannot be written. -/
def Hinders (d : Document) : Rejection → Prop
  | .flawed _ _ => True
  | .endless => ∃ v, d.Within v ∧ v.isEndless
  | .tooLong => ∃ v, d.Within v ∧ v.shown? = none

variable {d v : Document} {entries : Entries}

/-- The value of a field. -/
theorem Within.of_get? (h : d.Within v) (hentries : v.entries? = some entries) {name : String}
    {value : Document} (hvalue : entries.get? name = some value) : d.Within value := by
  obtain ⟨key, hmem⟩ := Entries.mem_of_get? hvalue
  exact .value h hentries hmem

/-- The value of a field that is there. -/
theorem Within.of_present? (h : d.Within v) (hentries : v.entries? = some entries)
    {name : String} {value : Document} (hvalue : entries.present? name = some value) :
    d.Within value :=
  h.of_get? hentries (Entries.present?_eq_some.1 hvalue).1

/-- What cannot be written as plain text cannot be shown. -/
theorem shown?_of_plain?_eq_none (h : v.plain? = none) : v.shown? = none := by
  cases v with
  | text => cases h
  | date => cases h
  | moment => cases h
  | _ => exact h

end Document

namespace Decode

open Stepwise Document

/-! ## Fields -/

section Fields

variable {α : Type} {d v : Document} {place : Location} {entries : Entries}

/-- Decoding is hindered by something in the document, or comes to a value. -/
abbrev Overcomes (d : Document) (result : Result α) : Prop :=
  Meets d.Hinders (fun _ => True) result

/-- A flaw. -/
theorem meets_flaw {good : α → Prop} (place : Location) (f : Flaw) :
    Meets d.Hinders good (flaw place f) :=
  trivial

/-- Mappings. -/
theorem meets_mapping :
    Meets d.Hinders (fun entries => v.entries? = some entries) (mapping place v) := by
  rw [mapping]
  split
  · next hentries => exact hentries
  · exact meets_flaw _ _

/-- Lists. -/
theorem meets_list : Meets d.Hinders (fun items => v.items? = some items) (list place v) := by
  rw [list]
  split
  · next hitems => exact hitems
  · exact meets_flaw _ _

/-- Texts. -/
theorem overcomes_anyText : Overcomes d (anyText place v) := by
  rw [anyText.eq_def]
  split
  · trivial
  · exact meets_flaw _ _

/-- Texts that say something. -/
theorem overcomes_filledText : Overcomes d (filledText place v) := by
  rw [filledText]
  refine overcomes_anyText.bind fun value _ => ?_
  exact (meets_flaw _ _).ite trivial

/-- Fields that have to be there. -/
theorem meets_required {name : String} :
    Meets d.Hinders (fun value => entries.present? name = some value)
      (required place entries name) := by
  rw [required]
  split
  · next hvalue => exact hvalue
  · exact meets_flaw _ _

/-- Names. -/
theorem overcomes_requiredName {name : String} :
    Overcomes d (requiredName place entries name) := by
  rw [requiredName]
  exact meets_required.bind fun value _ => overcomes_filledText

/-- Texts that have to be there. -/
theorem overcomes_requiredText {name : String} :
    Overcomes d (requiredText place entries name) := by
  rw [requiredText]
  exact meets_required.bind fun value _ => overcomes_anyText

/-- Texts that may be there. -/
theorem overcomes_optionalText {name : String} :
    Overcomes d (optionalText place entries name) := by
  rw [optionalText]
  split
  · exact overcomes_anyText.map fun _ _ => trivial
  · trivial

/-- A text that is written, unless a number in it is too long. -/
theorem overcomes_written {text : Option String} (h : d.Within v)
    (htext : text = none → v.shown? = none) : Overcomes d (written text) := by
  cases text with
  | some value => trivial
  | none => exact ⟨v, h, htext rfl⟩

/-- Scalars. -/
theorem overcomes_scalar (h : d.Within v) : Overcomes d (scalar place v) := by
  rw [scalar.eq_def]
  split
  · trivial
  · trivial
  · exact overcomes_written h shown?_of_plain?_eq_none
  · exact overcomes_written h shown?_of_plain?_eq_none
  · exact overcomes_written h shown?_of_plain?_eq_none
  · exact meets_flaw _ _

/-- The items of a list. -/
theorem overcomes_each {decode : Location → Document → Result α} {i : Nat}
    {items : List Document} (h : ∀ place, ∀ item ∈ items, Overcomes d (decode place item)) :
    Overcomes d (each decode place i items) := by
  induction items generalizing i with
  | nil => trivial
  | cons first rest ih =>
    rw [each]
    refine (h _ first List.mem_cons_self).bind fun value _ => ?_
    refine (ih fun place item hitem => h place item (List.mem_cons_of_mem first hitem)).bind
      fun values _ => ?_
    trivial

/-- Documentation. -/
theorem overcomes_docs {value : Option Document} : Overcomes d (docs place value) := by
  rw [docs.eq_def]
  split
  · trivial
  · trivial
  · refine meets_list.bind fun items _ => ?_
    exact overcomes_each fun place item _ => overcomes_filledText

/-- Templates. -/
theorem overcomes_template {source : String} : Overcomes d (template place source) := by
  rw [template]
  split
  · trivial
  · exact meets_flaw _ _

/-- Templates, if there are any. -/
theorem overcomes_optionalTemplate {source : Option String} :
    Overcomes d (optionalTemplate place source) := by
  cases source with
  | none => trivial
  | some source => exact overcomes_template.map fun _ _ => trivial

/-- Values that may count as nothing. -/
theorem meets_filled {good : List α → Prop} {field : String} {decode : Document → Result (List α)}
    (hnil : good []) (hdecode : ∀ value, entries.get? field = some value →
      Meets d.Hinders good (decode value)) :
    Meets d.Hinders good (match filled? entries field with
      | some value => decode value
      | none => .ok []) := by
  split
  · next hvalue => exact hdecode _ (filled?_eq_some.1 hvalue).1
  · exact hnil

end Fields

/-! ## Calls, functions and scripts -/

section Parts

variable {d v : Document} {place : Location} {entries : Entries}

/-- Arguments. -/
theorem overcomes_arguments {read : List (String × String)} {given : Entries}
    (h : ∀ key value, (key, value) ∈ given → d.Within key ∧ d.Within value) :
    Overcomes d (arguments place read given) := by
  induction given generalizing read with
  | nil => trivial
  | cons entry rest ih =>
    obtain ⟨key, value⟩ := entry
    obtain ⟨hkey, hvalue⟩ := h key value List.mem_cons_self
    rw [arguments]
    refine (overcomes_written hkey shown?_of_plain?_eq_none).bind fun name _ => ?_
    refine (overcomes_scalar hvalue).bind fun text _ => ?_
    exact ih fun key value hmem => h key value (List.mem_cons_of_mem _ hmem)

/-- Calls. -/
theorem overcomes_call (h : d.Within v) : Overcomes d (call place v) := by
  rw [call]
  refine meets_mapping.bind fun entries hentries => ?_
  refine overcomes_requiredName.bind fun function _ => ?_
  have hgiven : Meets d.Hinders
      (fun given : Entries => ∀ key value, (key, value) ∈ given → d.Within key ∧ d.Within value)
      (match filled? entries "parameters" with
        | some value => mapping (place.key "parameters") value
        | none => .ok []) := by
    refine meets_filled (fun _ _ hmem => absurd hmem List.not_mem_nil) fun value hvalue => ?_
    have hwithin := h.of_get? hentries hvalue
    exact meets_mapping.imp (fun _ hcause => hcause) fun given hmapping key value hmem =>
      ⟨.key hwithin hmapping hmem, .value hwithin hmapping hmem⟩
  refine hgiven.bind fun given hgiven => ?_
  exact (overcomes_arguments hgiven).bind fun texts _ => trivial

/-- Lists of calls. -/
theorem overcomes_calls (h : d.Within v) : Overcomes d (calls place v) := by
  rw [calls]
  split
  · exact (overcomes_call h).map fun _ _ => trivial
  · refine meets_list.bind fun items hitems => ?_
    refine (meets_flaw _ _).ite (overcomes_each fun place item hitem => ?_)
    exact overcomes_call (.item h hitems hitem)

/-- Calls, if there are any. -/
theorem overcomes_optionalCalls {value : Option Document}
    (h : ∀ w, value = some w → d.Within w) : Overcomes d (optionalCalls place value) := by
  cases value with
  | none => trivial
  | some w => exact overcomes_calls (h w rfl)

/-- Code or calls. -/
theorem meets_body (h : d.Within v) (hentries : v.entries? = some entries) {owner : Owner} :
    Meets d.Hinders (fun read => ∀ w, read.2.2 = some w → d.Within w)
      (body place owner entries) := by
  have hcallee : ∀ w, entries.present? "call" = some w → d.Within w :=
    fun w hw => h.of_present? hentries hw
  rw [body]
  refine overcomes_optionalText.bind fun code _ => ?_
  refine overcomes_optionalText.bind fun revertCode _ => ?_
  dsimp only
  split
  · exact meets_flaw _ _
  · exact meets_flaw _ _
  · exact (meets_flaw _ _).ite hcallee

/-- Parameters. -/
theorem overcomes_parameter (h : d.Within v) : Overcomes d (parameter place v) := by
  rw [parameter]
  refine meets_mapping.bind fun entries hentries => ?_
  refine overcomes_requiredName.bind fun name _ => ?_
  refine (meets_flaw _ _).ite ?_
  have hmark : Overcomes d (optionalMark place entries) := by
    rw [optionalMark]
    split
    · trivial
    · trivial
    · exact meets_flaw _ _
  have hvalue : Overcomes d (defaultValue place entries) := by
    rw [defaultValue]
    split
    · trivial
    · next hvalue => exact (overcomes_scalar (h.of_get? hentries hvalue)).map fun _ _ => trivial
  exact hmark.bind fun optional _ => hvalue.bind fun value _ => trivial

/-- Lists of parameters. -/
theorem overcomes_parameters {function : String} {i : Nat} {seen : List String}
    {items : List Document} (h : ∀ item ∈ items, d.Within item) :
    Overcomes d (parameters function place i seen items) := by
  induction items generalizing i seen with
  | nil => trivial
  | cons first rest ih =>
    rw [parameters]
    refine (overcomes_parameter (h first List.mem_cons_self)).bind fun value _ => ?_
    refine (meets_flaw _ _).ite ?_
    exact (ih fun item hitem => h item (List.mem_cons_of_mem first hitem)).bind fun _ _ => trivial

/-- Arguments as templates. -/
theorem overcomes_checkArguments {given : List (String × String)} :
    Overcomes d (checkArguments place given) := by
  induction given with
  | nil => trivial
  | cons entry rest ih =>
    rw [checkArguments]
    exact overcomes_template.bind fun _ _ => ih

/-- The arguments of all calls as templates. -/
theorem overcomes_checkCalls {places : Nat → Location} {i : Nat} {given : List Call} :
    Overcomes d (checkCalls places i given) := by
  induction given generalizing i with
  | nil => trivial
  | cons c rest ih =>
    rw [checkCalls]
    exact overcomes_checkArguments.bind fun _ _ => ih

/-- Functions. -/
theorem overcomes_function (h : d.Within v) : Overcomes d (function place v) := by
  rw [function]
  refine meets_mapping.bind fun entries hentries => ?_
  refine overcomes_requiredName.bind fun name _ => ?_
  have hdeclared : Meets d.Hinders (fun declared => ∀ item ∈ declared, d.Within item)
      (match filled? entries "parameters" with
        | some value => list (place.key "parameters") value
        | none => .ok []) := by
    refine meets_filled (fun _ hmem => absurd hmem List.not_mem_nil) fun value hvalue => ?_
    exact meets_list.imp (fun _ hcause => hcause) fun items hitems item hitem =>
      .item (h.of_get? hentries hvalue) hitems hitem
  refine hdeclared.bind fun declared hdeclared => ?_
  refine (overcomes_parameters hdeclared).bind fun params _ => ?_
  refine (meets_body h hentries).bind fun read hread => ?_
  refine (overcomes_optionalCalls hread).bind fun called _ => ?_
  refine overcomes_checkCalls.bind fun _ _ => ?_
  refine overcomes_optionalTemplate.bind fun code _ => ?_
  exact overcomes_optionalTemplate.bind fun revertCode _ => trivial

/-- Levels. -/
theorem overcomes_level {value : Option Document} (h : ∀ w, value = some w → d.Within w) :
    Overcomes d (level place value) := by
  cases value with
  | none => trivial
  | some w =>
    rw [level.eq_def]
    dsimp only
    split
    · trivial
    · exact (overcomes_written (h w rfl) id).bind fun _ _ => meets_flaw _ _

/-- Scripts. -/
theorem overcomes_script (h : d.Within v) : Overcomes d (script place v) := by
  rw [script]
  refine meets_mapping.bind fun entries hentries => ?_
  have hpresent : ∀ {name : String} w, entries.present? name = some w → d.Within w :=
    fun w hw => h.of_present? hentries hw
  refine overcomes_requiredName.bind fun name _ => ?_
  refine (meets_body h hentries).bind fun read hread => ?_
  refine (overcomes_level hpresent).bind fun recommend _ => ?_
  refine (overcomes_optionalCalls hread).bind fun called _ => ?_
  exact overcomes_docs.bind fun documentation _ => trivial

end Parts

/-! ## Categories and collections -/

section Collections

variable {d : Document}

/-- Distinct names. -/
theorem overcomes_checkDistinct {place : Location} {named : List (Nat × String)} :
    Overcomes d (checkDistinct place named) := by
  rw [checkDistinct]
  split
  · trivial
  · exact meets_flaw _ _

/-- A category, if nothing hinders in its children. -/
theorem overcomes_category_of_children {place : Location} {v : Document} (h : d.Within v)
    (hchildren : ∀ value items, v.field? "children" = some value → value.items? = some items →
      (∀ item ∈ items, d.Within item) →
      Overcomes d (children (place.key "children") 0 items)) :
    Overcomes d (category place v) := by
  rw [category]
  split
  · exact meets_flaw _ _
  · next entries hentries =>
    refine overcomes_requiredName.bind fun name _ => ?_
    split
    · exact meets_flaw _ _
    · next value hvalue =>
      have hwithin := h.of_present? hentries hvalue
      split
      · split
        · next hendless => exact ⟨value, hwithin, hendless⟩
        · exact meets_flaw _ _
      · next items hitems =>
        have hfield := field?_of_present? hentries hvalue
        refine (meets_flaw _ _).ite ?_
        refine (hchildren value items hfield hitems fun item hitem =>
          .item hwithin hitems hitem).bind fun contents _ => ?_
        refine overcomes_checkDistinct.bind fun _ _ => ?_
        exact overcomes_docs.bind fun documentation _ => trivial

/-- A child, if nothing hinders elsewhere in it, and the children behind it. -/
theorem overcomes_children_cons {place : Location} {i : Nat} {item : Document}
    {rest : List Document} (h : d.Within item)
    (hcategory : Overcomes d (category (place.item i) item))
    (hrest : Overcomes d (children place (i + 1) rest)) :
    Overcomes d (children place i (item :: rest)) := by
  rw [children]
  split
  · split
    · next hendless => exact ⟨item, h, hendless⟩
    · exact meets_flaw _ _
  · split
    · exact meets_flaw _ _
    · exact hcategory.bind fun _ _ => hrest.bind fun _ _ => trivial
    · exact (overcomes_script h).bind fun _ _ => hrest.bind fun _ _ => trivial
    · exact meets_flaw _ _

/-- Categories, and the children of categories. -/
theorem overcomes_category_and_children :
    (∀ place v, d.Within v → Overcomes d (category place v)) ∧
      ∀ place i items, (∀ item ∈ items, d.Within item) →
        Overcomes d (children place i items) := by
  apply nesting_induction
  case parent =>
    intro place v ih h
    exact overcomes_category_of_children h ih
  case nil =>
    intro place i _
    rw [children]
    trivial
  case cons =>
    intro place i item rest ihCategory ihRest h
    have hitem := h item List.mem_cons_self
    refine overcomes_children_cons hitem (ihCategory hitem) (ihRest fun other hother => ?_)
    exact h other (List.mem_cons_of_mem item hother)

/-- Scripting languages. -/
theorem overcomes_scripting {place : Location} {v : Document} :
    Overcomes d (scripting place v) := by
  rw [scripting]
  refine meets_mapping.bind fun entries _ => ?_
  refine overcomes_requiredName.bind fun language _ => ?_
  refine overcomes_requiredText.bind fun startCode _ => ?_
  refine overcomes_requiredText.bind fun endCode _ => ?_
  exact overcomes_optionalText.bind fun extension _ => trivial

/-- Collections. -/
theorem overcomes_collection (d : Document) : Overcomes d (collection d) := by
  have h : d.Within d := .whole
  have hlist : ∀ {place : Location} {value : Document}, d.Within value →
      Meets d.Hinders (fun items => ∀ item ∈ items, d.Within item) (list place value) :=
    fun hvalue => meets_list.imp (fun _ hcause => hcause) fun items hitems item hitem =>
      .item hvalue hitems hitem
  rw [collection]
  refine meets_mapping.bind fun entries hentries => ?_
  refine overcomes_requiredName.bind fun name _ => ?_
  have hplatform : Overcomes d (platform [.key "os"] name) := by
    rw [platform]
    split
    · trivial
    · exact meets_flaw _ _
  refine hplatform.bind fun os _ => ?_
  have hscripting : Overcomes d
      (optionalScripting [.key "scripting"] (entries.present? "scripting")) := by
    cases entries.present? "scripting" with
    | none => trivial
    | some value => exact overcomes_scripting.map fun _ _ => trivial
  refine hscripting.bind fun language _ => ?_
  refine meets_required.bind fun raw hraw => ?_
  refine (hlist (h.of_present? hentries hraw)).bind fun items hitems => ?_
  refine (meets_flaw _ _).ite ?_
  refine (overcomes_each fun place item hitem =>
    overcomes_category_and_children.1 place item (hitems item hitem)).bind fun actions _ => ?_
  refine overcomes_checkDistinct.bind fun _ _ => ?_
  refine (meets_filled (fun _ hmem => absurd hmem List.not_mem_nil) fun value hvalue =>
    hlist (h.of_get? hentries hvalue)).bind fun definitions hdefinitions => ?_
  refine (overcomes_each fun place item hitem =>
    overcomes_function (hdefinitions item hitem)).bind fun functions _ => ?_
  have hnames : Overcomes d (checkNames ⟨os, language, actions, functions⟩) := by
    rw [checkNames]
    split
    · exact meets_flaw _ _
    · split
      · exact meets_flaw _ _
      · trivial
  exact hnames.bind fun _ _ => trivial

end Collections

end Decode

/-- What there is in a document that cannot be gone through. -/
theorem Document.hinders_of_ofDocument {d : Document} {rejection : Rejection}
    (h : Collection.ofDocument d = .error rejection) : d.Hinders rejection := by
  have hovercomes := Decode.overcomes_collection d
  rw [← Collection.ofDocument, h] at hovercomes
  exact hovercomes

/-! ## Reading -/

open Stepwise

namespace Yaml

/-- Why a text that is well formed has no document, where at most `deepest` collections may lie
one within the other. -/
inductive Unbuildable (deepest : Nat) (source : String) : Fault → Prop
  /-- A character is spelled by a number that no character has. -/
  | misspelt {f : Fault} (spelled : Misspells source.toList f) : Unbuildable deepest source f
  /-- Collections lie too far within one another. -/
  | nested (deep : deepest < (scan source.toList).countP Token.opens) :
      Unbuildable deepest source .tooDeep
  /-- A node of the text has no value. -/
  | valueless {root : Nat} {graph : Graph} {f : Fault}
      (read : (Reader.start deepest (scan source.toList)).document = .ok (some root, graph))
      (node : graph.Valueless f) : Unbuildable deepest source f

/-- A text that has no document is not well formed, or there is a reason. -/
theorem unbuildable_of_parse {deepest : Nat} {source : String} {f : Fault}
    (h : parse deepest source = .error f) (hformed : f ≠ .malformed) :
    Unbuildable deepest source f := by
  rcases error_or_exists_of_bind_eq_error h with hread | ⟨⟨root, graph⟩, hread, hrest⟩
  · rcases Reader.halted_of_document hread with rfl | hfault | ⟨rfl, hdeep⟩
    · exact absurd rfl hformed
    · rcases blamed_of_mem_scan hfault with rfl | hspelled
      · exact absurd rfl hformed
      · exact .misspelt hspelled
    · exact .nested hdeep
  · cases root with
    | none => cases hrest
    | some root =>
      rcases error_or_exists_of_bind_eq_error hrest with hcontents | ⟨contents, -, htree⟩
      · rcases Contents.stops_of_ofGraph hcontents with rfl | hvalueless
        · exact absurd rfl hformed
        · exact .valueless hread hvalueless
      · cases htree

end Yaml

namespace Collection

variable {deepest : Nat} {origin source : String}

/-- What reading a collection comes to. -/
inductive Parses (deepest : Nat) (origin source : String) : Except Obstacle Collection → Prop
  /-- The text describes a collection. -/
  | collection {d : Document} {c : Collection} (parsed : Yaml.parse deepest source = .ok d)
      (schema : Schema.IsCollection d) (decoded : ofDocument d = .ok c) :
      Parses deepest origin source (.ok c)
  /-- The text is not well formed. -/
  | malformed (parsed : Yaml.parse deepest source = .error .malformed) :
      Parses deepest origin source (.error (.problem (.load origin "invalid YAML")))
  /-- The document is no collection, for a flaw that is somewhere in it. -/
  | flawed {d : Document} {location : Location} {flaw : Flaw}
      (parsed : Yaml.parse deepest source = .ok d) (schema : ¬ Schema.IsCollection d)
      (decoded : ofDocument d = .error (.flawed location flaw))
      (place : d.PointsInto location flaw) :
      Parses deepest origin source (.error (.problem (.document location flaw)))
  /-- The text is well formed, and has no document. -/
  | unbuildable {f : Yaml.Fault} (parsed : Yaml.parse deepest source = .error f)
      (formed : f ≠ .malformed) (reason : Yaml.Unbuildable deepest source f) :
      Parses deepest origin source (.error (.breakdown (.value f)))
  /-- A part of the document has no end. -/
  | endless {d v : Document} (parsed : Yaml.parse deepest source = .ok d)
      (decoded : ofDocument d = .error .endless) (part : d.Within v) (stop : v.isEndless) :
      Parses deepest origin source (.error (.breakdown .endless))
  /-- A part of the document holds a number that cannot be written. -/
  | tooLong {d v : Document} (parsed : Yaml.parse deepest source = .ok d)
      (decoded : ofDocument d = .error .tooLong) (part : d.Within v) (long : v.shown? = none) :
      Parses deepest origin source (.error (.breakdown .tooLong))

/-- Reading a collection comes to one of these. -/
theorem parses_parse (deepest : Nat) (origin source : String) :
    Parses deepest origin source (parse deepest origin source) := by
  rw [parse]
  cases hparsed : Yaml.parse deepest source with
  | error f =>
    by_cases hformed : f = .malformed
    · subst hformed
      exact .malformed hparsed
    · dsimp only
      rw [Obstacle.ofFault]
      · exact .unbuildable hparsed hformed (Yaml.unbuildable_of_parse hparsed hformed)
      · exact hformed
  | ok d =>
    dsimp only
    cases hdecoded : ofDocument d with
    | ok c => exact .collection hparsed (Decode.isCollection_of_ofDocument hdecoded) hdecoded
    | error rejection =>
      have hhinders := Document.hinders_of_ofDocument hdecoded
      cases rejection with
      | flawed location flaw =>
        have hschema : ¬ Schema.IsCollection d := by
          intro hschema
          obtain ⟨c, hc⟩ := Decode.exists_ofDocument_of_isCollection hschema
          cases hc.symm.trans hdecoded
        exact .flawed hparsed hschema hdecoded (Decode.points_collection d location flaw hdecoded)
      | endless =>
        obtain ⟨v, hpart, hstop⟩ := hhinders
        exact .endless hparsed hdecoded hpart hstop
      | tooLong =>
        obtain ⟨v, hpart, hlong⟩ := hhinders
        exact .tooLong hparsed hdecoded hpart hlong

/-- Reading a collection comes to nothing else. -/
theorem parse_eq_of_parses {result : Except Obstacle Collection}
    (h : Parses deepest origin source result) : parse deepest origin source = result := by
  cases h with
  | collection parsed schema decoded =>
    rw [parse, parsed]
    dsimp only
    rw [decoded]
  | malformed parsed =>
    rw [parse, parsed]
    rfl
  | flawed parsed schema decoded place =>
    rw [parse, parsed]
    dsimp only
    rw [decoded]
    rfl
  | unbuildable parsed formed reason =>
    rw [parse, parsed]
    dsimp only
    rw [Obstacle.ofFault]
    exact formed
  | endless parsed decoded part stop =>
    rw [parse, parsed]
    dsimp only
    rw [decoded]
    rfl
  | tooLong parsed decoded part long =>
    rw [parse, parsed]
    dsimp only
    rw [decoded]
    rfl

/-- Reading answers: with a collection, with a report that the text cannot be read, which names
its origin, or with a report of what is wrong in its document. -/
def Answers (origin : String) (result : Except Obstacle Collection) : Prop :=
  (∃ c, result = .ok c) ∨ (∃ reason, result = .error (.problem (.load origin reason))) ∨
    ∃ location flaw, result = .error (.problem (.document location flaw))

/-- What reading a text comes to, for every text, origin and depth: exactly one of the given cases.
It answers with a collection or a report for exactly those texts that do not break it off,
because they spell a value that is not to be had or a document that cannot be gone through. -/
theorem parse_answers_up_to_breakdown (deepest : Nat) (origin source : String) :
    (∀ result, parse deepest origin source = result ↔ Parses deepest origin source result) ∧
    (Answers origin (parse deepest origin source) ↔
      ∀ b, ¬ Parses deepest origin source (.error (.breakdown b))) := by
  have hparses := parses_parse deepest origin source
  constructor
  · intro result
    constructor
    · rintro rfl
      exact hparses
    · exact parse_eq_of_parses
  · constructor
    · intro hanswers b hb
      rw [parse_eq_of_parses hb] at hanswers
      rcases hanswers with ⟨c, hc⟩ | ⟨reason, hload⟩ | ⟨location, flaw, hdocument⟩
      · cases hc
      · cases hload
      · cases hdocument
    · intro hnone
      generalize parse deepest origin source = result at hparses
      cases hparses with
      | collection parsed schema decoded => exact .inl ⟨_, rfl⟩
      | malformed parsed => exact .inr (.inl ⟨_, rfl⟩)
      | flawed parsed schema decoded place => exact .inr (.inr ⟨_, _, rfl⟩)
      | unbuildable parsed formed reason =>
        exact absurd (.unbuildable parsed formed reason) (hnone _)
      | endless parsed decoded part stop =>
        exact absurd (.endless parsed decoded part stop) (hnone _)
      | tooLong parsed decoded part long =>
        exact absurd (.tooLong parsed decoded part long) (hnone _)

/-- The thirteenth month breaks reading off: there is neither a collection nor a report. -/
theorem impossible_date_breaks_off :
    parse 100 "<string>" "2024-13-45" = .error (.breakdown (.value .impossibleValue)) ∧
      ¬ Answers "<string>" (parse 100 "<string>" "2024-13-45") := by
  have htokens : Yaml.scan "2024-13-45".toList =
      [.scalar true "2024-13-45".toList, .streamEnd] := by
    decide
  have hread : (Yaml.Reader.start 100 [.scalar true "2024-13-45".toList, .streamEnd]).document =
      .ok (some 0, #[.scalar .timestamp "2024-13-45".toList]) := by
    decide +kernel
  have hfault : Yaml.parse 100 "2024-13-45" = .error .impossibleValue := by
    rw [Yaml.parse, Yaml.parseChars, htokens, bind_of_eq_ok hread]
    rfl
  have hparse : parse 100 "<string>" "2024-13-45" =
      .error (.breakdown (.value .impossibleValue)) := by
    rw [parse, hfault]
    rfl
  refine ⟨hparse, ?_⟩
  rw [hparse]
  rintro (⟨c, hc⟩ | ⟨reason, hload⟩ | ⟨location, flaw, hdocument⟩)
  · cases hc
  · cases hload
  · cases hdocument

end Collection

end Tweaks
