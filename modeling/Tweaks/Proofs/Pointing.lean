import Tweaks.Problem
import Tweaks.Proofs.Decoding

/-!
# Places of flaws

A flaw is reported with a place.  Decoding carries the place along, from the root into
fields and items, and works out some places afterwards, from the tree it has built.
Every one of them is a place of the document: either something stands there, or a
mapping stands there that lacks a field it has to have.  Where a name is taken twice, the
place is that of the name where it stands for the second time.

Main results:

- `points_bind`: a step that reports a flaw, and what follows it.
- `points_call`, `points_function`, `points_script`, `points_category_and_children`,
  `points_collection`: one lemma for every part that is decoded.
- `repeats_of_firstRepeat?`: a repeat is reported where the name stands again.
- `problems_point_into`: every problem is about a place of the document.
-/

namespace Tweaks

/-- The name that is said to be taken twice, and of what it is the name. -/
def Flaw.repeated? : Flaw → Option (Noun × String)
  | repeatedParameter name _ => some (.parameter, name)
  | repeatedCategory name => some (.category, name)
  | repeatedFunction name => some (.function, name)
  | repeatedScript name => some (.script, name)
  | _ => none

namespace Document

/-- A flaw is reported where it is. -/
inductive PointsInto (d : Document) : Location → Flaw → Prop
  | there {location : Location} {v : Document} {flaw : Flaw} (spot : d.Spot location v)
      (unrepeated : flaw.repeated? = none) : PointsInto d location flaw
  | lacking {noun : Noun} {place : Location} {v : Document} {entries : Entries}
      {field : String} (part : d.Part noun place v) (mapping : v.entries? = some entries)
      (required : field ∈ noun.requiredFields) (absent : entries.present? field = none) :
      PointsInto d (place.key field) .missing
  | repeated {noun : Noun} {name : String} {earlier later : Location} {flaw : Flaw}
      (reported : flaw.repeated? = some (noun, name))
      (repeats : d.Repeats noun name earlier later) :
      PointsInto d (later.key noun.nameField) flaw

end Document

namespace Decode

open Stepwise Document

/-! ## Flaws of values -/

/-- Every flaw that a result reports points into the document. -/
def Points {α : Type} (d : Document) (result : Result α) : Prop :=
  ∀ location f, result = .error (.flawed location f) → d.PointsInto location f

section Values

variable {α β : Type} {d v : Document} {place : Location} {entries : Entries} {noun : Noun}

/-- What succeeds reports nothing. -/
theorem points_ok (value : α) : Points d (.ok value) := by
  intro location f h
  cases h

/-- A single flaw. -/
theorem points_flaw {f : Flaw} (h : d.PointsInto place f) :
    Points d (flaw place f : Result α) := by
  intro location f' hflaw
  cases hflaw
  exact h

/-- A first step, and what follows it. -/
theorem points_bind {first : Result α} {next : α → Result β} (hfirst : Points d first)
    (hnext : ∀ value, first = .ok value → Points d (next value)) :
    Points d (first >>= next) := by
  intro location f h
  rcases error_or_exists_of_bind_eq_error h with herror | ⟨value, hvalue, hrest⟩
  · exact hfirst location f herror
  · exact hnext value hvalue location f hrest

/-- What is made of the value of a step. -/
theorem points_map {first : Result α} (f : α → β) (hfirst : Points d first) :
    Points d (first.map f) := by
  intro location f' h
  exact hfirst location f' (eq_error_of_map_eq_error h)

/-- Reading that would not end is no flaw of the document. -/
theorem points_endless : Points d (.error .endless : Result α) := by
  intro location f h
  cases h

/-- A number that is too long is no flaw of the document. -/
theorem points_written (text : Option String) : Points d (written text) := by
  intro location f h
  cases text <;> cases h

/-- Mappings. -/
theorem points_mapping (h : d.Spot place v) : Points d (mapping place v) := by
  rw [mapping]
  split
  · exact points_ok _
  · exact points_flaw (.there h rfl)

/-- Lists. -/
theorem points_list (h : d.Spot place v) : Points d (list place v) := by
  rw [list]
  split
  · exact points_ok _
  · exact points_flaw (.there h rfl)

/-- Texts. -/
theorem points_anyText (h : d.Spot place v) : Points d (anyText place v) := by
  rw [anyText.eq_def]
  split
  · exact points_ok _
  · exact points_flaw (.there h rfl)

/-- Texts that say something. -/
theorem points_filledText (h : d.Spot place v) : Points d (filledText place v) := by
  refine points_bind (points_anyText h) fun value _ => ?_
  split
  · exact points_flaw (.there h rfl)
  · exact points_ok _

/-- Scalars. -/
theorem points_scalar (h : d.Spot place v) : Points d (scalar place v) := by
  rw [scalar.eq_def]
  split
  · exact points_ok _
  · exact points_ok _
  · exact points_written _
  · exact points_written _
  · exact points_written _
  · exact points_flaw (.there h rfl)

/-- Templates. -/
theorem points_template (h : d.Spot place v) (source : String) :
    Points d (template place source) := by
  rw [template]
  split
  · exact points_ok _
  · exact points_flaw (.there h rfl)

/-- Templates, if there are any. -/
theorem points_optionalTemplate {source : Option String}
    (h : source.isSome → ∃ v, d.Spot place v) : Points d (optionalTemplate place source) := by
  cases source with
  | none => exact points_ok _
  | some source =>
    obtain ⟨v, hv⟩ := h rfl
    exact points_map _ (points_template hv source)

/-- The items of a list, where each is decoded with no flaw elsewhere. -/
theorem points_each {decode : Location → Document → Result α} {i : Nat}
    {items : List Document}
    (h : ∀ j item, items[j]? = some item → Points d (decode (place.item (i + j)) item)) :
    Points d (each decode place i items) := by
  induction items generalizing i with
  | nil => exact points_ok _
  | cons first rest ih =>
    refine points_bind (h 0 first rfl) fun value _ => points_bind (ih ?_) fun values _ => ?_
    · intro j item hitem
      rw [Nat.add_assoc, Nat.add_comm 1 j]
      exact h (j + 1) item hitem
    · exact points_ok _

/-- Documentation. -/
theorem points_docs {value : Option Document} (h : ∀ w, value = some w → d.Spot place w) :
    Points d (docs place value) := by
  cases value with
  | none => exact points_ok _
  | some w =>
    have hspot := h w rfl
    rw [docs.eq_def]
    split
    · exact points_ok _
    · exact points_ok _
    · next heq =>
      cases heq
      refine points_bind (points_list hspot) fun items hitems => points_each ?_
      intro j item hitem
      rw [Nat.zero_add]
      exact points_filledText (hspot.item (list_eq_ok_iff.1 hitems) hitem)

end Values

/-! ## Flaws of calls -/

section Calls

variable {α : Type} {d v : Document} {place : Location} {entries : Entries} {noun : Noun}

/-- Fields that have to be there. -/
theorem points_required (h : d.Part noun place v) (hentries : v.entries? = some entries)
    {field : String} (hfield : field ∈ noun.requiredFields) :
    Points d (required place entries field) := by
  rw [required]
  split
  · exact points_ok _
  · next habsent => exact points_flaw (.lacking h hentries hfield habsent)

/-- The value of a field that is there has its place. -/
theorem spot_of_present? (h : d.Spot place v) (hentries : v.entries? = some entries)
    {field : String} (hname : field ≠ "") {value : Document}
    (hvalue : entries.present? field = some value) : d.Spot (place.key field) value :=
  h.field (field?_of_present? hentries hvalue) hname

/-- Names. -/
theorem points_requiredName (h : d.Part noun place v) (hentries : v.entries? = some entries)
    {field : String} (hfield : field ∈ noun.requiredFields) :
    Points d (requiredName place entries field) := by
  refine points_bind (points_required h hentries hfield) fun value hvalue => ?_
  exact points_filledText (spot_of_present? h.spot hentries
    (Noun.ne_empty_of_mem_requiredFields hfield) (required_eq_ok_iff.1 hvalue))

/-- Texts that have to be there. -/
theorem points_requiredText (h : d.Part noun place v) (hentries : v.entries? = some entries)
    {field : String} (hfield : field ∈ noun.requiredFields) :
    Points d (requiredText place entries field) := by
  refine points_bind (points_required h hentries hfield) fun value hvalue => ?_
  exact points_anyText (spot_of_present? h.spot hentries
    (Noun.ne_empty_of_mem_requiredFields hfield) (required_eq_ok_iff.1 hvalue))

/-- Texts that may be there. -/
theorem points_optionalText (h : d.Spot place v) (hentries : v.entries? = some entries)
    {field : String} (hname : field ≠ "") : Points d (optionalText place entries field) := by
  rw [optionalText]
  split
  · next value hvalue =>
    exact points_map _ (points_anyText (spot_of_present? h hentries hname hvalue))
  · exact points_ok _

/-- Values that may count as nothing. -/
theorem points_filled (h : d.Spot place v) (hentries : v.entries? = some entries)
    {field : String} (hname : field ≠ "") {decode : Document → Result (List α)}
    (hdecode : ∀ value, d.Spot (place.key field) value → Points d (decode value)) :
    Points d (match filled? entries field with
      | some value => decode value
      | none => .ok []) := by
  split
  · next value hvalue =>
    refine hdecode value (h.field ?_ hname)
    rw [field?_of_entries hentries]
    exact (filled?_eq_some.1 hvalue).1
  · exact points_ok _

/-- The value under any key has its place, behind another key. -/
theorem spot_of_mem (h : d.Spot place v) (hplace : place ≠ [])
    (hentries : v.entries? = some entries) {key value : Document} (hmem : (key, value) ∈ entries)
    {name : String} (hname : key.plain? = some name) : d.Spot (place.key name) value :=
  ⟨.entry h.found hentries hmem hname, head?_key h.headed (.inl hplace)⟩

/-- Arguments. -/
theorem points_arguments (h : d.Spot place v) (hplace : place ≠ [])
    (hentries : v.entries? = some entries) {read : List (String × String)} {given : Entries}
    (hgiven : given ⊆ entries) : Points d (arguments place read given) := by
  induction given generalizing read with
  | nil => exact points_ok _
  | cons first rest ih =>
    obtain ⟨key, value⟩ := first
    obtain ⟨hfirst, hrest⟩ := List.cons_subset.1 hgiven
    refine points_bind (points_written _) fun name hname => ?_
    have hspot := spot_of_mem h hplace hentries hfirst (written_eq_ok_iff.1 hname)
    exact points_bind (points_scalar hspot) fun text _ => ih hrest

/-- Calls. -/
theorem points_call (h : d.Part .call place v) : Points d (call place v) := by
  refine points_bind (points_mapping h.spot) fun entries hmapping => ?_
  have hentries := mapping_eq_ok_iff.1 hmapping
  refine points_bind (points_requiredName h hentries (by decide)) fun function _ => ?_
  refine points_bind ?_ fun given hgiven => points_bind ?_ fun texts _ => points_ok _
  · exact points_filled h.spot hentries (by decide) fun value hspot => points_mapping hspot
  · rcases exists_of_filled hentries hgiven with rfl | ⟨value, hvalue, hitems⟩
    · exact points_ok _
    · exact points_arguments (h.spot.field hvalue (by decide)) (by simp [Location.key])
        (mapping_eq_ok_iff.1 hitems) (List.Subset.refl _)

/-- The calls of a part. -/
theorem points_calls (h : d.Part noun place v) (howner : noun = .function ∨ noun = .script)
    {callee : Document} (hcallee : v.field? "call" = some callee) :
    Points d (calls (place.key "call") callee) := by
  have hspot := h.spot.field hcallee (by decide)
  rw [calls]
  split
  · next entries hentries =>
    exact points_map _ (points_call (.call howner h hcallee (by rw [hentries]; rfl)))
  · refine points_bind (points_list hspot) fun items hitems => ?_
    split
    · exact points_flaw (.there hspot rfl)
    · refine points_each fun j item hitem => ?_
      rw [Nat.zero_add]
      exact points_call (.calls howner h ⟨callee, items, hcallee, list_eq_ok_iff.1 hitems, hitem⟩)

/-- The calls of a part, if there are any. -/
theorem points_optionalCalls (h : d.Part noun place v)
    (howner : noun = .function ∨ noun = .script) {callee : Option Document}
    (hcallee : ∀ w, callee = some w → v.field? "call" = some w) :
    Points d (optionalCalls (place.key "call") callee) := by
  cases callee with
  | none => exact points_ok _
  | some w => exact points_calls h howner (hcallee w rfl)

end Calls

/-! ## Flaws of functions -/

section Functions

variable {α : Type} {d v : Document} {place : Location} {entries : Entries} {noun : Noun}

/-- Bodies. -/
theorem points_body (h : d.Spot place v) (hentries : v.entries? = some entries)
    (owner : Owner) : Points d (body place owner entries) := by
  refine points_bind (points_optionalText h hentries (by decide)) fun code _ => ?_
  refine points_bind (points_optionalText h hentries (by decide)) fun revertCode hrevert => ?_
  rw [optionalText_eq_ok_iff] at hrevert
  dsimp only
  split
  · exact points_flaw (.there h rfl)
  · exact points_flaw (.there h rfl)
  · split
    · next hboth =>
      obtain ⟨text, rfl⟩ := Option.isSome_iff_exists.1 (Bool.and_eq_true_iff.1 hboth).2
      exact points_flaw (.there (spot_of_present? h hentries (by decide) hrevert) rfl)
    · exact points_ok _

/-- Parameters. -/
theorem points_parameter (h : d.Part .parameter place v) : Points d (parameter place v) := by
  refine points_bind (points_mapping h.spot) fun entries hmapping => ?_
  have hentries := mapping_eq_ok_iff.1 hmapping
  have hspot : ∀ field value, field ≠ "" → entries.get? field = some value →
      d.Spot (place.key field) value := by
    intro field value hname hvalue
    rw [← field?_of_entries hentries] at hvalue
    exact h.spot.field hvalue hname
  refine points_bind (points_requiredName h hentries (by decide)) fun name hname => ?_
  split
  · exact points_flaw (.there (hspot _ _ (by decide) (requiredName_eq_ok_iff.1 hname).1) rfl)
  · refine points_bind ?_ fun optional _ => points_bind ?_ fun value _ => points_ok _
    · rw [optionalMark]
      split
      · exact points_ok _
      · exact points_ok _
      · next value _ hvalue => exact points_flaw (.there (hspot _ value (by decide) hvalue) rfl)
    · rw [defaultValue]
      split
      · exact points_ok _
      · next value hvalue => exact points_map _ (points_scalar (hspot _ value (by decide) hvalue))

/-- Parameters of a function, where the names seen before are those of earlier ones. -/
theorem points_parameters {function : String} {i : Nat} {seen : List String}
    {items : List Document}
    (hpart : ∀ j item, items[j]? = some item → d.Part .parameter (place.item (i + j)) item)
    (hseen : ∀ name ∈ seen, ∃ j < i, d.Named .parameter (place.item j) name) :
    Points d (parameters function place i seen items) := by
  induction items generalizing i seen with
  | nil => exact points_ok _
  | cons item rest ih =>
    have hitem := hpart 0 item rfl
    refine points_bind (points_parameter hitem) fun p hp => ?_
    have hnamed : d.Named .parameter (place.item i) p.name :=
      ⟨item, hitem, fieldText?_of_parameter hp⟩
    split
    · next hold =>
      obtain ⟨j, hj, hearlier⟩ := hseen p.name (List.contains_iff_mem.1 hold)
      refine points_flaw (.repeated rfl ⟨hearlier, hnamed, ?_, ?_⟩)
      · simpa using Location.before_of_lt hj place [] []
      · intro _
        exact ⟨place, j, i, rfl, rfl⟩
    · refine points_bind (ih ?_ ?_) fun others _ => points_ok _
      · intro j other hother
        rw [Nat.add_assoc, Nat.add_comm 1 j]
        exact hpart (j + 1) other hother
      · intro name hname
        rcases List.mem_cons.1 hname with rfl | hname
        · exact ⟨i, Nat.lt_succ_self i, hnamed⟩
        · obtain ⟨j, hj, hearlier⟩ := hseen name hname
          exact ⟨j, Nat.lt_succ_of_lt hj, hearlier⟩

/-- The arguments of a decoded call have places. -/
theorem exists_spot_of_argument (h : d.Part .call place v) {c : Call}
    (hcall : call place v = .ok c) :
    ∀ a ∈ c.arguments, ∃ w, d.Spot ((place.key "parameters").key a.1) w := by
  obtain ⟨entries, hmapping, hcall⟩ := exists_of_bind_eq_ok hcall
  obtain ⟨function, -, hcall⟩ := exists_of_bind_eq_ok hcall
  obtain ⟨given, hgiven, hcall⟩ := exists_of_bind_eq_ok hcall
  obtain ⟨texts, htexts, hcall⟩ := exists_of_bind_eq_ok hcall
  cases hcall
  intro a ha
  obtain ⟨name, text⟩ := a
  rcases (mem_arguments_iff (by simp) htexts).1 ha with hpasses | ⟨hnone, -⟩
  · obtain ⟨key, w, hmem, hplain⟩ := hpasses.exists_mem
    rcases exists_of_filled (mapping_eq_ok_iff.1 hmapping) hgiven with rfl | ⟨value, hvalue, hitems⟩
    · cases hmem
    · exact ⟨w, spot_of_mem (h.spot.field hvalue (by decide)) (by simp [Location.key])
        (mapping_eq_ok_iff.1 hitems) hmem hplain⟩
  · cases hnone

/-- Decoded calls stand at the places that are worked out for them. -/
theorem exists_of_getElem?_calls (h : d.Part noun place v)
    (howner : noun = .function ∨ noun = .script) {callee : Document}
    (hcallee : v.field? "call" = some callee) {called : List Call}
    (hcalled : calls (place.key "call") callee = .ok called) {j : Nat} {c : Call}
    (hc : called[j]? = some c) :
    ∃ w, d.Part .call (callPlace (place.key "call") callee j) w ∧
      call (callPlace (place.key "call") callee j) w = .ok c := by
  rw [calls] at hcalled
  rw [callPlace]
  cases hentries : callee.entries? with
  | some entries =>
    rw [hentries] at hcalled
    obtain ⟨only, honly, rfl⟩ := exists_of_map_eq_ok hcalled
    cases j with
    | zero =>
      cases hc
      exact ⟨callee, .call howner h hcallee (by rw [hentries]; rfl), honly⟩
    | succ j => cases hc
  | none =>
    rw [hentries] at hcalled
    obtain ⟨items, hitems, hcalled⟩ := exists_of_bind_eq_ok hcalled
    split at hcalled
    · cases hcalled
    · obtain ⟨item, hitem, hdecode⟩ := exists_of_getElem?_each hcalled hc
      rw [Nat.zero_add] at hdecode
      exact ⟨item, .calls howner h ⟨callee, items, hcallee, list_eq_ok_iff.1 hitems, hitem⟩,
        hdecode⟩

/-- The check of a call's arguments. -/
theorem points_checkArguments {arguments : List (String × String)}
    (h : ∀ a ∈ arguments, ∃ w, d.Spot ((place.key "parameters").key a.1) w) :
    Points d (checkArguments place arguments) := by
  induction arguments with
  | nil => exact points_ok _
  | cons first rest ih =>
    obtain ⟨hfirst, hrest⟩ := List.forall_mem_cons.1 h
    obtain ⟨w, hw⟩ := hfirst
    exact points_bind (points_template hw _) fun _ _ => ih hrest

/-- The check of all calls' arguments. -/
theorem points_checkCalls {site : Nat → Location} {i : Nat} {called : List Call}
    (h : ∀ j c, called[j]? = some c → ∀ a ∈ c.arguments,
      ∃ w, d.Spot (((site (i + j)).key "parameters").key a.1) w) :
    Points d (checkCalls site i called) := by
  induction called generalizing i with
  | nil => exact points_ok _
  | cons first rest ih =>
    refine points_bind (points_checkArguments (h 0 first rfl)) fun _ _ => ih ?_
    intro j c hc
    rw [Nat.add_assoc, Nat.add_comm 1 j]
    exact h (j + 1) c hc

/-- Functions. -/
theorem points_function (h : d.Part .function place v) : Points d (function place v) := by
  refine points_bind (points_mapping h.spot) fun entries hmapping => ?_
  have hentries := mapping_eq_ok_iff.1 hmapping
  refine points_bind (points_requiredName h hentries (by decide)) fun name _ => ?_
  refine points_bind ?_ fun declared hdeclared => points_bind ?_ fun params _ => ?_
  · exact points_filled h.spot hentries (by decide) fun value hspot => points_list hspot
  · refine points_parameters ?_ (by simp)
    intro j item hitem
    rw [Nat.zero_add]
    exact .parameter h (listed_of_filled hentries hdeclared hitem)
  · refine points_bind (points_body h.spot hentries _) ?_
    rintro ⟨code, revertCode, callee⟩ hbody
    obtain ⟨hcode, hrevert, hcallee, -, -⟩ := body_eq_ok_iff.1 hbody
    have hcall : ∀ w, callee = some w → v.field? "call" = some w := by
      rintro w rfl
      exact field?_of_present? hentries hcallee
    have hsource : ∀ {field : String} {source : Option String}, field ≠ "" →
        entries.present? field = source.map Document.text → source.isSome →
          ∃ w, d.Spot (place.key field) w := by
      intro field source hname hpresent hsome
      obtain ⟨text, rfl⟩ := Option.isSome_iff_exists.1 hsome
      exact ⟨_, spot_of_present? h.spot hentries hname hpresent⟩
    refine points_bind (points_optionalCalls h (.inl rfl) hcall) fun called hcalled => ?_
    refine points_bind (points_checkCalls ?_) fun _ _ => ?_
    · intro j c hc
      rw [Nat.zero_add]
      cases callee with
      | none =>
        cases hcalled
        cases hc
      | some w =>
        obtain ⟨u, hu, hdecode⟩ := exists_of_getElem?_calls h (.inl rfl) (hcall w rfl) hcalled hc
        exact exists_spot_of_argument hu hdecode
    · refine points_bind (points_optionalTemplate (hsource (by decide) hcode)) fun first _ => ?_
      exact points_bind (points_optionalTemplate (hsource (by decide) hrevert)) fun second _ =>
        points_ok _

end Functions

/-! ## Flaws of scripts and categories -/

section Categories

variable {d v : Document} {place : Location} {entries : Entries} {noun : Noun}

/-- Recommendation levels. -/
theorem points_level {value : Option Document} (h : ∀ w, value = some w → d.Spot place w) :
    Points d (level place value) := by
  cases value with
  | none => exact points_ok _
  | some w =>
    rw [level.eq_def]
    dsimp only
    split
    · exact points_ok _
    · exact points_bind (points_written _) fun shown _ => points_flaw (.there (h w rfl) rfl)

/-- Scripts. -/
theorem points_script (h : d.Part .script place v) : Points d (script place v) := by
  refine points_bind (points_mapping h.spot) fun entries hmapping => ?_
  have hentries := mapping_eq_ok_iff.1 hmapping
  refine points_bind (points_requiredName h hentries (by decide)) fun name _ => ?_
  refine points_bind (points_body h.spot hentries _) ?_
  rintro ⟨code, revertCode, callee⟩ hbody
  obtain ⟨-, -, hcallee, -, -⟩ := body_eq_ok_iff.1 hbody
  refine points_bind (points_level ?_) fun recommend _ => ?_
  · intro w hw
    exact spot_of_present? h.spot hentries (by decide) hw
  refine points_bind (points_optionalCalls h (.inr rfl) ?_) fun called _ => ?_
  · rintro w rfl
    exact field?_of_present? hentries hcallee
  · refine points_bind (points_docs ?_) fun documentation _ => points_ok _
    intro w hw
    exact spot_of_present? h.spot hentries (by decide) hw

end Categories

/-! ## Flaws of names -/

section Names

variable {α : Type} {d v : Document} {place : Location} {entries : Entries} {noun : Noun}

/-- The first repeat in places that stand in the order of the document. -/
theorem repeats_of_firstRepeat? (noun : Noun) (toPlace : α → Location)
    {named : List (α × String)} (hnamed : ∀ k ∈ named, d.Named noun (toPlace k.1) k.2)
    (hsorted : named.Pairwise fun k l => (toPlace k.1).Before (toPlace l.1))
    (hlist : noun ≠ .script → ∃ list, ∀ k ∈ named, ∃ i, toPlace k.1 = Location.item list i)
    {k : α × String} (h : firstRepeat? [] named = some k) :
    ∃ earlier, d.Repeats noun k.2 earlier (toPlace k.1) := by
  obtain ⟨hmem, hseen | ⟨earlier, hsub⟩⟩ := firstRepeat?_eq_some h
  · cases hseen
  · have hearlier : (earlier, k.2) ∈ named := hsub.subset List.mem_cons_self
    refine ⟨toPlace earlier, hnamed _ hearlier, hnamed k hmem, ?_, ?_⟩
    · exact List.pairwise_iff_forall_sublist.1 hsorted hsub
    · intro hnoun
      obtain ⟨list, hitems⟩ := hlist hnoun
      obtain ⟨i, hi⟩ := hitems _ hearlier
      obtain ⟨j, hj⟩ := hitems k hmem
      exact ⟨list, i, j, hi, hj⟩

/-- The first repeat among the names of a list's items. -/
theorem repeats_of_firstRepeat?_namesIn (noun : Noun) {items : List Document}
    (hpart : ∀ j item, items[j]? = some item → (item.field? noun.nameField).isSome →
      d.Part noun (place.item j) item)
    {k : Nat × String} (h : firstRepeat? [] (namesIn noun.nameField 0 items) = some k) :
    ∃ earlier, d.Repeats noun k.2 earlier (place.item k.1) := by
  refine repeats_of_firstRepeat? noun place.item ?_ ?_ ?_ h
  · intro l hl
    obtain ⟨j, w, hj, hw, hname⟩ := mem_namesIn hl
    rw [Nat.zero_add] at hj
    rw [hj]
    exact ⟨w, hpart j w hw (by rw [fieldText?_eq_some.1 hname]; rfl), hname⟩
  · refine (pairwise_namesIn noun.nameField 0 items).imp fun hlt => ?_
    simpa using Location.before_of_lt hlt place [] []
  · intro _
    exact ⟨place, fun l _ => ⟨l.1, rfl⟩⟩

/-- Names of categories. -/
theorem points_checkDistinct {items : List Document}
    (hpart : ∀ j item, items[j]? = some item → (item.field? "category").isSome →
      d.Part .category (place.item j) item) :
    Points d (checkDistinct place (namesIn "category" 0 items)) := by
  rw [checkDistinct]
  split
  · exact points_ok _
  · next i name hrepeat =>
    obtain ⟨earlier, hrepeats⟩ := repeats_of_firstRepeat?_namesIn .category hpart hrepeat
    exact points_flaw (.repeated rfl hrepeats)

/-- A category, if there are no flaws elsewhere in its children. -/
theorem points_category_of_children (h : d.Part .category place v)
    (hchildren : ∀ value items, v.field? "children" = some value → value.items? = some items →
      Points d (children (place.key "children") 0 items)) :
    Points d (category place v) := by
  rw [category]
  split
  · exact points_flaw (.there h.spot rfl)
  · next entries hentries =>
    refine points_bind (points_requiredName h hentries (by decide)) fun name _ => ?_
    split
    · next habsent => exact points_flaw (.lacking h hentries (by decide) habsent)
    · next value hvalue =>
      have hspot := spot_of_present? h.spot hentries (by decide) hvalue
      split
      · split
        · exact points_endless
        · exact points_flaw (.there hspot rfl)
      · next items hitems =>
        have hfield := field?_of_present? hentries hvalue
        dsimp only
        split
        · exact points_flaw (.there hspot rfl)
        · refine points_bind (hchildren value items hfield hitems) fun contents hcontents =>
            points_bind ?_ fun _ _ => points_bind (points_docs ?_) fun _ _ => points_ok _
          · rw [categoryNames_eq_namesIn hcontents]
            refine points_checkDistinct fun j item hitem hsome => ?_
            cases childAt_of_getElem? hcontents hitem with
            | category has_category no_name _ _ =>
              exact .category h ⟨value, items, hfield, hitems, hitem⟩ has_category no_name
            | script _ no_category _ _ =>
              rw [no_category] at hsome
              cases hsome
          · intro w hw
            exact spot_of_present? h.spot hentries (by decide) hw

/-- A child, if there are no flaws elsewhere in it, and the children behind it. -/
theorem points_children_cons {base : Location} {i : Nat} {item : Document}
    {rest : List Document} (h : ChildrenOf d base v i (item :: rest))
    (hcategory : d.Part .category ((base.key "children").item i) item →
      Points d (category ((base.key "children").item i) item))
    (hrest : Points d (children (base.key "children") (i + 1) rest)) :
    Points d (children (base.key "children") i (item :: rest)) := by
  have hlisted := h.listed 0 item rfl
  have hspot : d.Spot ((base.key "children").item i) item :=
    ⟨h.part.found.listed hlisted, head?_item (head?_key h.part.spot.headed (.inr (by decide))) i⟩
  rw [children]
  split
  · split
    · exact points_endless
    · exact points_flaw (.there hspot rfl)
  · next entries hentries =>
    split
    · exact points_flaw (.there hspot rfl)
    · next hhas hnot =>
      rw [← field?_of_entries hentries] at hhas hnot
      have hnone := Option.not_isSome_iff_eq_none.1 (ne_of_eq_of_ne hnot Bool.false_ne_true)
      have hpart := Part.category h.part hlisted hhas hnone
      exact points_bind (hcategory hpart) fun _ _ => points_bind hrest fun _ _ => points_ok _
    · next hnot hhas =>
      rw [← field?_of_entries hentries] at hhas hnot
      have hnone := Option.not_isSome_iff_eq_none.1 (ne_of_eq_of_ne hnot Bool.false_ne_true)
      have hpart := Part.script h.part hlisted hhas hnone
      exact points_bind (points_script hpart) fun _ _ => points_bind hrest fun _ _ => points_ok _
    · exact points_flaw (.there hspot rfl)

/-- Categories, and the children of categories. -/
theorem points_category_and_children :
    (∀ place v, d.Part .category place v → Points d (category place v)) ∧
      ∀ place i items base v, place = Location.key base "children" →
        ChildrenOf d base v i items → Points d (children place i items) := by
  apply nesting_induction
  case parent =>
    intro place v ih h
    refine points_category_of_children h fun value items hvalue hitems => ?_
    refine ih value items hvalue hitems place v rfl ⟨h, fun j item hitem => ?_⟩
    rw [Nat.zero_add]
    exact ⟨value, items, hvalue, hitems, hitem⟩
  case nil =>
    intro place i base v _ _
    rw [children]
    exact points_ok _
  case cons =>
    rintro place i item rest ihCategory ihRest base v rfl h
    exact points_children_cons h ihCategory (ihRest base v rfl h.rest)

end Names

/-! ## Flaws of collections -/

section Collections

variable {d v : Document} {place : Location} {entries : Entries}

/-- Scripting languages. -/
theorem points_scripting (h : d.Part .scripting place v) : Points d (scripting place v) := by
  refine points_bind (points_mapping h.spot) fun entries hmapping => ?_
  have hentries := mapping_eq_ok_iff.1 hmapping
  refine points_bind (points_requiredName h hentries (by decide)) fun language _ => ?_
  refine points_bind (points_requiredText h hentries (by decide)) fun startCode _ => ?_
  refine points_bind (points_requiredText h hentries (by decide)) fun endCode _ => ?_
  exact points_bind (points_optionalText h.spot hentries (by decide)) fun extension _ =>
    points_ok _

/-- Names of functions and scripts. -/
theorem points_checkNames {c : Collection} {definitions : List Document}
    (hfunctions : indexed Function.name 0 c.functions = namesIn "name" 0 definitions)
    (hparts : ∀ j item, definitions[j]? = some item → d.Listed "functions" j item)
    (hscripts : ∀ k ∈ allScriptPlaces [.key "actions"] 0 c.actions, d.Named .script k.1 k.2) :
    Points d (checkNames c) := by
  rw [checkNames]
  split
  · next i name hrepeat =>
    rw [hfunctions] at hrepeat
    obtain ⟨earlier, hrepeats⟩ := repeats_of_firstRepeat?_namesIn .function
      (fun j item hitem _ => Part.function (hparts j item hitem)) hrepeat
    exact points_flaw (.repeated rfl hrepeats)
  · split
    · next site name hrepeat =>
      obtain ⟨earlier, hrepeats⟩ := repeats_of_firstRepeat? .script id hscripts
        (pairwise_allScriptPlaces _ _ _) (fun h => absurd rfl h) hrepeat
      exact points_flaw (.repeated rfl hrepeats)
    · exact points_ok _

/-- Collections. -/
theorem points_collection (d : Document) : Points d (collection d) := by
  have h : d.Part .collection [] d := .collection
  refine points_bind (points_mapping h.spot) fun entries hmapping => ?_
  have hentries := mapping_eq_ok_iff.1 hmapping
  have hfield : ∀ {field value}, entries.get? field = some value → d.field? field = some value := by
    intro field value hvalue
    rw [field?_of_entries hentries, hvalue]
  refine points_bind (points_requiredName h hentries (by decide)) fun name hname => ?_
  refine points_bind ?_ fun os _ => points_bind ?_ fun language _ => ?_
  · rw [platform]
    split
    · exact points_ok _
    · exact points_flaw (.there (h.spot.field (hfield (requiredName_eq_ok_iff.1 hname).1)
        (by decide)) rfl)
  · cases hscripting : entries.present? "scripting" with
    | none => exact points_ok _
    | some value =>
      exact points_map _ (points_scripting
        (.scripting (field?_of_present? hentries hscripting)))
  refine points_bind (points_required h hentries (by decide)) fun raw hraw => ?_
  have hraw := field?_of_present? hentries (required_eq_ok_iff.1 hraw)
  have hspot : d.Spot [.key "actions"] raw := h.spot.field hraw (by decide)
  refine points_bind (points_list hspot) fun items hitems => ?_
  have hactions : ∀ j item, items[j]? = some item → d.Listed "actions" j item :=
    fun j item hitem => ⟨raw, items, hraw, list_eq_ok_iff.1 hitems, hitem⟩
  split
  · exact points_flaw (.there hspot rfl)
  refine points_bind (points_each fun j item hitem => ?_) fun actions hdecoded => ?_
  · rw [Nat.zero_add]
    exact points_category_and_children.1 _ item (.action (hactions j item hitem))
  refine points_bind ?_ fun _ _ => points_bind ?_ fun definitions hdefinitions => ?_
  · rw [indexed_eq_namesIn (fun _ _ _ => fieldText?_of_category) hdecoded]
    exact points_checkDistinct fun j item hitem _ => .action (hactions j item hitem)
  · exact points_filled h.spot hentries (by decide) fun value hspot => points_list hspot
  have hlisted : ∀ j item, definitions[j]? = some item → d.Listed "functions" j item :=
    fun j item hitem => listed_of_filled hentries hdefinitions hitem
  refine points_bind (points_each fun j item hitem => ?_) fun functions hfunctions => ?_
  · rw [Nat.zero_add]
    exact points_function (.function (hlisted j item hitem))
  refine points_bind (points_checkNames ?_ hlisted ?_) fun _ _ => points_ok _
  · exact indexed_eq_namesIn (fun _ _ _ => fieldText?_of_function) hfunctions
  · intro k hk
    exact (mem_allScriptPlaces_iff_named hraw (list_eq_ok_iff.1 hitems) hdecoded).1 hk

end Collections

end Decode

/-- A part that lacks a field is found in the document. -/
theorem Document.PointsInto.found_or_lacks {d : Document} {location : Location} {flaw : Flaw}
    (h : d.PointsInto location flaw) :
    (∃ v, d.At location v) ∨ flaw = .missing ∧ d.Lacks location := by
  cases h with
  | there spot _ => exact .inl ⟨_, spot.found⟩
  | lacking part mapping required absent =>
    exact .inr ⟨rfl, _, _, _, _, _, part, part.found, mapping, required, absent, rfl⟩
  | repeated _ repeats =>
    obtain ⟨v, hpart, hname⟩ := repeats.second
    exact .inl ⟨_, hpart.found.field (fieldText?_eq_some.1 hname)⟩

/-- A place that is pointed to does not start with an empty key. -/
theorem Document.PointsInto.headed {d : Document} {location : Location} {flaw : Flaw}
    (h : d.PointsInto location flaw) : location.head? ≠ some (.key "") := by
  cases h with
  | there spot _ => exact spot.headed
  | lacking part _ required _ =>
    exact head?_key part.spot.headed (.inr (Noun.ne_empty_of_mem_requiredFields required))
  | @repeated noun _ _ _ _ _ repeats =>
    obtain ⟨v, hpart, -⟩ := repeats.second
    exact head?_key hpart.spot.headed (.inr (by cases noun <;> decide))

/-- Every problem with a document that is no collection is about a place in it: keys with
dots between them and indices in brackets lead from the root to a value, or to a mapping and
on to a field that it has to have, but lacks.  Where a name is taken twice, the place is
that of the name of the later one of two parts with that name. -/
theorem Document.problems_point_into {d : Document} {rejection : Rejection} {problem : Problem}
    (hrejected : Collection.ofDocument d = .error rejection)
    (hproblem : Obstacle.ofRejection rejection = .problem problem) :
    ∃ location flaw, problem = .document location flaw ∧
      problem.identifier = location.written ∧
      ((∃ v, d.At location v) ∨ flaw = .missing ∧ d.Lacks location) ∧
      ∀ noun name, flaw.repeated? = some (noun, name) →
        ∃ earlier later, d.Repeats noun name earlier later ∧
          location = later.key noun.nameField := by
  cases rejection with
  | endless => cases hproblem
  | tooLong => cases hproblem
  | flawed location flaw =>
    cases hproblem
    have h : d.PointsInto location flaw := Decode.points_collection d location flaw hrejected
    refine ⟨location, flaw, rfl, Location.render_eq_written h.headed, h.found_or_lacks, ?_⟩
    intro noun name hrepeated
    cases h with
    | there _ unrepeated =>
      rw [unrepeated] at hrepeated
      cases hrepeated
    | lacking _ _ _ _ => cases hrepeated
    | @repeated noun' name' earlier later _ reported repeats =>
      cases reported.symm.trans hrepeated
      exact ⟨earlier, later, repeats, rfl⟩

/-- A document with two scripts of the same name, in different categories. -/
def repetitiveDocument : Document :=
  .mapping
    [(.text "os", .text "linux"),
      (.text "actions", .list
        [.mapping [(.text "category", .text "Privacy"), (.text "children", .list
          [.mapping [(.text "name", .text "Clear"), (.text "code", .text "clear")],
            .mapping [(.text "category", .text "Services"), (.text "children", .list
              [.mapping [(.text "name", .text "Stop"), (.text "code", .text "stop")],
                .mapping [(.text "name", .text "Clear"), (.text "code", .text "rm")]])]])]])]

/-- The second of the scripts is reported, by its place within its own category. -/
theorem repetitiveDocument_points_into :
    ∃ location later earlier, (Problem.document location (.repeatedScript "Clear")).identifier =
        "actions[0].children[1].children[1].name" ∧
      repetitiveDocument.Repeats .script "Clear" earlier later ∧ location = later.key "name" := by
  have hrejected : Collection.ofDocument repetitiveDocument =
      .error (.flawed [.key "actions", .index 0, .key "children", .index 1, .key "children",
        .index 1, .key "name"] (.repeatedScript "Clear")) := by
    decide +kernel
  obtain ⟨location, flaw, hproblem, hwritten, -, hrepeats⟩ :=
    Document.problems_point_into hrejected rfl
  cases hproblem
  obtain ⟨earlier, later, h, hlocation⟩ := hrepeats .script "Clear" rfl
  refine ⟨_, later, earlier, ?_, h, hlocation⟩
  rw [hwritten]
  decide

end Tweaks
