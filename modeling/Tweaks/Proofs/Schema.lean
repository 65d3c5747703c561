import Tweaks.Proofs.Decoding
import Tweaks.Proofs.Nesting

/-!
# The documents of collections

Which documents describe a collection.  A mapping has fields that it needs, fields that may
also be missing or null, and fields that may also be anything that counts as nothing; what
other fields it has does not matter.  Code is given either as such or by calls.  The
categories of one place have distinct names, and so have all functions, the parameters of
one function, and all scripts wherever they are.

Main results:

- `IsParameterName.not_isBlankText`, `not_isCalls_null`: what names and calls are not.
- `needs_iff`, `allows_iff`, `fills_iff`: fields as decoding looks them up.
-/

namespace Tweaks

/-! ## Documents of a collection -/

namespace Document

/-- A field is there, and its value fits. -/
def Needs (v : Document) (field : String) (fits : Document → Prop) : Prop :=
  ∃ value, v.field? field = some value ∧ fits value

/-- A field is missing or null, or its value fits. -/
def Allows (v : Document) (field : String) (fits : Document → Prop) : Prop :=
  ∀ value, v.field? field = some value → value = .null ∨ fits value

/-- A field is missing or its value counts as nothing, or fits. -/
def Fills (v : Document) (field : String) (fits : Document → Prop) : Prop :=
  ∀ value, v.field? field = some value → value.isFalsy ∨ fits value

/-- A field is missing or null. -/
def Omits (v : Document) (field : String) : Prop :=
  v.Allows field fun _ => False

end Document

namespace Schema

open Document

/-- A text. -/
def IsText (v : Document) : Prop :=
  ∃ text, v = .text text

/-- A text that says something. -/
def IsName (v : Document) : Prop :=
  ∃ text, v = .text text ∧ Text.isBlankText text = false

/-- A list whose items fit, and have distinct texts under a field. -/
def IsListing (fits : Document → Prop) (field : String) (v : Document) : Prop :=
  ∃ items, v.items? = some items ∧ (∀ item ∈ items, fits item) ∧
    (textsUnder field items).Nodup

/-- Documentation: a text, or a list of texts that say something. -/
def IsDocs (v : Document) : Prop :=
  IsText v ∨ ∃ items, v.items? = some items ∧ ∀ item ∈ items, IsName item

/-- The source of a template. -/
def IsTemplate (source : String) : Prop :=
  ∃ t, Template.parse source = .ok t

/-- Arguments of a call: scalars under keys that can be written, where those that are passed
on fit. -/
structure IsArguments (fits : String → Prop) (given : Entries) : Prop where
  keys : ∀ e ∈ given, e.1.plain?.isSome
  values : ∀ e ∈ given, e.2.scalarText?.isSome
  passed : ∀ name text, given.Passes name text → fits text

/-- A call of a function. -/
structure IsCall (fits : String → Prop) (v : Document) : Prop where
  function : v.Needs "function" IsName
  parameters : v.Fills "parameters" fun w => ∃ given, w.entries? = some given ∧
    IsArguments fits given

/-- A call, or a list of one or more calls. -/
def IsCalls (fits : String → Prop) (v : Document) : Prop :=
  IsCall fits v ∨ ∃ items, v.items? = some items ∧ items ≠ [] ∧ ∀ item ∈ items, IsCall fits item

/-- What is run: code with or without code that undoes it, or calls. -/
inductive IsBody (isCode isArgument : String → Prop) (v : Document) : Prop
  | code (code : v.Needs "code" fun w => ∃ text, w = .text text ∧ isCode text)
      (revertCode : v.Allows "revertCode" fun w => ∃ text, w = .text text ∧ isCode text)
      (call : v.Omits "call")
  | call (code : v.Omits "code") (revertCode : v.Omits "revertCode")
      (call : v.Needs "call" (IsCalls isArgument))

/-- The name of a parameter: characters of names, with a line feed behind them or not. -/
def IsParameterName (name : String) : Prop :=
  ∃ word, Template.IsName word ∧ (name.toList = word ∨ name.toList = word ++ ['\n'])

/-- Names of parameters say something. -/
theorem IsParameterName.not_isBlankText {name : String} (h : IsParameterName name) :
    Text.isBlankText name = false := by
  obtain ⟨word, hname, hchars⟩ := h
  obtain ⟨c, hc⟩ := List.exists_mem_of_ne_nil word hname.ne_nil
  rw [Text.isBlankText, ← Bool.not_eq_true, List.all_eq_true]
  intro hblank
  have hmem : c ∈ name.toList := by
    rcases hchars with hwhole | hline
    · rwa [hwhole]
    · rw [hline]
      exact List.mem_append_left _ hc
  have hnot := hblank c hmem
  rw [hname.not_isBlank c hc] at hnot
  cases hnot

/-- A declared parameter. -/
structure IsParameter (v : Document) : Prop where
  name : v.Needs "name" fun w => ∃ text, w = .text text ∧ IsParameterName text
  optional : ∀ value, v.field? "optional" = some value → ∃ b, value = .bool b
  default : ∀ value, v.field? "default" = some value → value.scalarText?.isSome

/-- A function. -/
structure IsFunction (v : Document) : Prop where
  name : v.Needs "name" IsName
  parameters : v.Fills "parameters" (IsListing IsParameter "name")
  body : IsBody IsTemplate IsTemplate v

/-- A script. -/
structure IsScript (v : Document) : Prop where
  name : v.Needs "name" IsName
  body : IsBody (fun _ => True) (fun _ => True) v
  recommend : v.Allows "recommend" fun w => ∃ level : Level, w = .text level.name
  docs : v.Allows "docs" IsDocs

/-- A category: its children have exactly one of the keys of categories and of scripts. -/
inductive IsCategory : Document → Prop
  | intro {v value : Document} {items : List Document} (name : v.Needs "category" IsName)
      (docs : v.Allows "docs" IsDocs) (children : v.field? "children" = some value)
      (list : value.items? = some items) (some_children : items ≠ [])
      (one_key : ∀ item ∈ items, (item.field? "category").isSome ↔ item.field? "name" = none)
      (categories : ∀ item ∈ items, (item.field? "category").isSome → IsCategory item)
      (scripts : ∀ item ∈ items, (item.field? "name").isSome → IsScript item)
      (distinct : (textsUnder "category" items).Nodup) :
      IsCategory v

/-- The language of scripts. -/
structure IsScripting (v : Document) : Prop where
  language : v.Needs "language" IsName
  startCode : v.Needs "startCode" IsText
  endCode : v.Needs "endCode" IsText
  fileExtension : v.Allows "fileExtension" IsText

/-- A collection. -/
structure IsCollection (d : Document) : Prop where
  os : d.Needs "os" fun w => ∃ platform : Platform, w = .text platform.name
  scripting : d.Allows "scripting" IsScripting
  actions : d.Needs "actions" fun w => w.items? ≠ some [] ∧ IsListing IsCategory "category" w
  functions : d.Fills "functions" (IsListing IsFunction "name")
  scripts : ∀ place place' name, d.Named .script place name → d.Named .script place' name →
    place = place'

end Schema

/-! ## Fields -/

namespace Document

variable {v : Document} {entries : Entries} {field : String} {fits : Document → Prop}

/-- Only null is null. -/
theorem isNull_eq_false : v.isNull = false ↔ v ≠ .null := by
  cases v <;> simp [isNull]

/-- A field is present where its value is not null. -/
theorem present?_of_field? (h : v.entries? = some entries) {value : Document}
    (hvalue : v.field? field = some value) (hnull : value ≠ .null) :
    entries.present? field = some value := by
  rw [field?_of_entries h] at hvalue
  exact Entries.present?_eq_some.2 ⟨hvalue, isNull_eq_false.2 hnull⟩

/-- A field that is needed is present. -/
theorem needs_iff (h : v.entries? = some entries) (hnull : ¬ fits .null) :
    v.Needs field fits ↔ ∃ value, entries.present? field = some value ∧ fits value := by
  constructor
  · rintro ⟨value, hvalue, hfits⟩
    refine ⟨value, present?_of_field? h hvalue ?_, hfits⟩
    rintro rfl
    exact hnull hfits
  · rintro ⟨value, hvalue, hfits⟩
    exact ⟨value, field?_of_present? h hvalue, hfits⟩

/-- A field that is allowed fits where it is present. -/
theorem allows_iff (h : v.entries? = some entries) :
    v.Allows field fits ↔ ∀ value, entries.present? field = some value → fits value := by
  constructor
  · intro hallows value hvalue
    have hnull := isNull_eq_false.1 (Entries.present?_eq_some.1 hvalue).2
    exact (hallows value (field?_of_present? h hvalue)).resolve_left hnull
  · intro hpresent value hvalue
    by_cases hnull : value = .null
    · exact .inl hnull
    · exact .inr (hpresent value (present?_of_field? h hvalue hnull))

/-- A field that may count as nothing fits where it counts for something. -/
theorem fills_iff (h : v.entries? = some entries) :
    v.Fills field fits ↔ ∀ value, Decode.filled? entries field = some value → fits value := by
  rw [Fills, field?_of_entries h]
  constructor
  · intro hfills value hvalue
    obtain ⟨hget, hfalsy⟩ := Decode.filled?_eq_some.1 hvalue
    exact (hfills value hget).resolve_left (by simp [hfalsy])
  · intro hfilled value hvalue
    cases hfalsy : value.isFalsy with
    | true => exact .inl rfl
    | false => exact .inr (hfilled value (Decode.filled?_eq_some.2 ⟨hvalue, hfalsy⟩))

/-- A field that is omitted is not present. -/
theorem omits_iff (h : v.entries? = some entries) :
    v.Omits field ↔ entries.present? field = none := by
  rw [Omits, allows_iff h, Option.eq_none_iff_forall_ne_some]

/-- A mapping is no list. -/
theorem items?_of_entries (h : v.entries? = some entries) : v.items? = none := by
  rw [entries?.eq_def] at h
  split at h
  · rfl
  · rfl
  · cases h

/-- Where a field is needed there is a mapping. -/
theorem Needs.exists_entries (h : v.Needs field fits) : ∃ entries, v.entries? = some entries := by
  obtain ⟨value, hvalue, -⟩ := h
  obtain ⟨entries, hentries, -⟩ := field?_eq_some.1 hvalue
  exact ⟨entries, hentries⟩

end Document

/-- Null is no call, and no list of calls. -/
theorem Schema.not_isCalls_null {fits : String → Prop} : ¬ IsCalls fits .null := by
  rintro (hcall | ⟨items, hitems, -⟩)
  · obtain ⟨entries, hentries⟩ := hcall.function.exists_entries
    cases hentries
  · cases hitems

end Tweaks
