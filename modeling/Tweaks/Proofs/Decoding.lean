import Tweaks.Proofs.Loading
import Tweaks.Proofs.Place

/-!
# What is decoded

Each step of decoding succeeds with certain documents only, and its value tells what they
say.  The tree of categories is gone through by one induction: over the children of
categories, and the items of lists.

Main results:

- `requiredName_eq_ok_iff`, `optionalText_eq_ok_iff`, `body_eq_ok_iff`: fields.
- `category_eq_ok_iff`, `children_cons_eq_ok_iff`, `nesting_induction`: categories.
- `exists_of_getElem?_each`, `childAt_of_getElem?`: items, each at its place.
- `indexed_eq_namesIn`, `categoryNames_eq_namesIn`: names that have to be distinct.
- `pairwise_allScriptPlaces`, `mem_allScriptPlaces_iff_named`: the places that are worked out
  for scripts are theirs, in the order of the document.
-/

namespace Tweaks

namespace Decode

open Stepwise Document

/-! ## Fields -/

section Fields

variable {α : Type} {d v : Document} {place : Location} {entries : Entries}

/-- Exactly mappings are decoded as such. -/
theorem mapping_eq_ok_iff : mapping place v = .ok entries ↔ v.entries? = some entries := by
  rw [mapping]
  split
  · next other hother => simp [hother]
  · next hnone => simp [hnone, flaw]

/-- Exactly lists are decoded as such. -/
theorem list_eq_ok_iff {items : List Document} :
    list place v = .ok items ↔ v.items? = some items := by
  rw [list]
  split
  · next other hother => simp [hother]
  · next hnone => simp [hnone, flaw]

/-- Exactly texts are decoded as such. -/
theorem anyText_eq_ok_iff {text : String} : anyText place v = .ok text ↔ v = .text text := by
  cases v <;> simp [anyText, flaw]

/-- A text that says something is decoded as such. -/
theorem filledText_eq_ok_iff {text : String} :
    filledText place v = .ok text ↔ v = .text text ∧ Text.isBlankText text = false := by
  constructor
  · intro h
    obtain ⟨value, hvalue, h⟩ := exists_of_bind_eq_ok h
    rw [anyText_eq_ok_iff] at hvalue
    split at h
    · cases h
    · next hblank =>
      cases h
      exact ⟨hvalue, Bool.eq_false_iff.2 hblank⟩
  · rintro ⟨rfl, hblank⟩
    simp [filledText, anyText, hblank, bind, Except.bind]

/-- A field that has to be there is found where it is there. -/
theorem required_eq_ok_iff {name : String} {value : Document} :
    required place entries name = .ok value ↔ entries.present? name = some value := by
  rw [required]
  split
  · next other hother => simp [hother]
  · next hnone => simp [hnone, flaw]

/-- A text is there exactly where it is found. -/
theorem present?_eq_text {name text : String} :
    entries.present? name = some (.text text) ↔ entries.get? name = some (.text text) := by
  simp [Entries.present?_eq_some, Document.isNull]

/-- The field of a name holds the name, which says something. -/
theorem requiredName_eq_ok_iff {name text : String} :
    requiredName place entries name = .ok text ↔
      entries.get? name = some (.text text) ∧ Text.isBlankText text = false := by
  rw [← present?_eq_text]
  constructor
  · intro h
    obtain ⟨value, hvalue, h⟩ := exists_of_bind_eq_ok h
    obtain ⟨rfl, hblank⟩ := filledText_eq_ok_iff.1 h
    exact ⟨required_eq_ok_iff.1 hvalue, hblank⟩
  · rintro ⟨hpresent, hblank⟩
    rw [requiredName, required_eq_ok_iff.2 hpresent]
    exact filledText_eq_ok_iff.2 ⟨rfl, hblank⟩

/-- A field that counts for something is found where it is there and does. -/
theorem filled?_eq_some {name : String} {value : Document} :
    filled? entries name = some value ↔
      entries.get? name = some value ∧ value.isFalsy = false := by
  simp [filled?, Option.filter_eq_some_iff]

/-- A text that may be there is missing where the field is, and else its value. -/
theorem optionalText_eq_ok_iff {name : String} {text : Option String} :
    optionalText place entries name = .ok text ↔
      entries.present? name = text.map Document.text := by
  rw [optionalText]
  cases entries.present? name with
  | none => cases text <;> simp
  | some value => cases text <;> cases value <;> simp [anyText, flaw, Except.map]

/-- A body has exactly one of code and calls, and nothing undoes calls. -/
theorem body_eq_ok_iff {owner : Owner} {code revertCode : Option String}
    {callee : Option Document} :
    body place owner entries = .ok (code, revertCode, callee) ↔
      entries.present? "code" = code.map Document.text ∧
      entries.present? "revertCode" = revertCode.map Document.text ∧
      entries.present? "call" = callee ∧ (callee.isSome ↔ code = none) ∧
      (callee.isSome → revertCode = none) := by
  constructor
  · intro h
    obtain ⟨first, hfirst, h⟩ := exists_of_bind_eq_ok h
    obtain ⟨second, hsecond, h⟩ := exists_of_bind_eq_ok h
    rw [optionalText_eq_ok_iff] at hfirst hsecond
    cases hcallee : entries.present? "call" <;> cases first <;> cases second <;>
      rw [hcallee] at h <;> cases h <;> simp [hfirst, hsecond]
  · rintro ⟨hcode, hrevert, rfl, hone, hundo⟩
    rw [body, optionalText_eq_ok_iff.2 hcode, optionalText_eq_ok_iff.2 hrevert]
    cases hcallee : entries.present? "call" <;> cases code <;> cases revertCode <;>
      simp_all [bind, Except.bind, pure, Except.pure]

/-- What is written is a text. -/
theorem written_eq_ok_iff {text : Option String} {value : String} :
    written text = .ok value ↔ text = some value := by
  cases text <;> simp [written]

/-- What a field comes to that may count as nothing: to nothing, or to what its value is
decoded to. -/
theorem exists_of_filled (hentries : v.entries? = some entries) {field : String}
    {decode : Document → Result (List α)} {items : List α}
    (h : (match filled? entries field with
      | some value => decode value
      | none => .ok []) = .ok items) :
    items = [] ∨ ∃ value, v.field? field = some value ∧ decode value = .ok items := by
  split at h
  · next value hvalue =>
    rw [field?_of_entries hentries]
    exact .inr ⟨value, (filled?_eq_some.1 hvalue).1, h⟩
  · cases h
    exact .inl rfl

/-- Where a list may count as nothing, its items are listed under the field. -/
theorem listed_of_filled (hentries : v.entries? = some entries) {field : String}
    {items : List Document}
    (h : (match filled? entries field with
      | some value => list place value
      | none => .ok []) = .ok items) {j : Nat} {item : Document} (hitem : items[j]? = some item) :
    v.Listed field j item := by
  rcases exists_of_filled hentries h with rfl | ⟨value, hvalue, hitems⟩
  · cases hitem
  · exact ⟨value, items, hvalue, list_eq_ok_iff.1 hitems, hitem⟩

end Fields

/-! ## Items and arguments -/

section Items

variable {α : Type} {d v : Document} {place : Location} {entries : Entries}

/-- What is decoded from the items of a list stands where they stand. -/
theorem exists_of_getElem?_each {decode : Location → Document → Result α} {i : Nat}
    {items : List Document} {results : List α}
    (h : each decode place i items = .ok results) {j : Nat} {a : α} (ha : results[j]? = some a) :
    ∃ item, items[j]? = some item ∧ decode (place.item (i + j)) item = .ok a := by
  induction items generalizing i j results with
  | nil => cases h; cases ha
  | cons item rest ih =>
    obtain ⟨first, hfirst, h⟩ := exists_of_bind_eq_ok h
    obtain ⟨others, hothers, h⟩ := exists_of_bind_eq_ok h
    cases h
    cases j with
    | zero => cases ha; exact ⟨item, rfl, hfirst⟩
    | succ j =>
      obtain ⟨other, hother, hdecode⟩ := ih hothers ha
      rw [Nat.add_assoc, Nat.add_comm 1 j] at hdecode
      exact ⟨other, hother, hdecode⟩

/-- Every item of a list is decoded, to what stands where it stands. -/
theorem exists_getElem?_of_each {decode : Location → Document → Result α} {i : Nat}
    {items : List Document} {results : List α}
    (h : each decode place i items = .ok results) {j : Nat} {item : Document}
    (hitem : items[j]? = some item) :
    ∃ a, results[j]? = some a ∧ decode (place.item (i + j)) item = .ok a := by
  have hlength := length_each h
  obtain ⟨hj, -⟩ := List.getElem?_eq_some_iff.1 hitem
  have hresult : results[j]? = some results[j] := List.getElem?_eq_getElem (by omega)
  obtain ⟨other, hother, hdecode⟩ := exists_of_getElem?_each h hresult
  rw [hitem] at hother
  cases hother
  exact ⟨_, hresult, hdecode⟩

/-- A scalar is decoded as the text it stands for. -/
theorem scalar_eq_ok_iff {text : String} :
    scalar place v = .ok text ↔ v.scalarText? = some text := by
  cases v <;> simp [scalar, scalarText?, written_eq_ok_iff, plain?, shown?, flaw]

/-- Setting an argument adds at most its name to the others. -/
theorem map_fst_setArgument (read : List (String × String)) (name value : String) :
    (setArgument read name value).map Prod.fst =
      if name ∈ read.map Prod.fst then read.map Prod.fst else read.map Prod.fst ++ [name] := by
  induction read with
  | nil => rfl
  | cons first rest ih =>
    obtain ⟨other, old⟩ := first
    rw [setArgument]
    by_cases hother : other = name
    · simp [hother]
    · rw [if_neg hother, List.map_cons, ih, List.map_cons]
      by_cases hmem : name ∈ rest.map Prod.fst
      · simp [hmem]
      · simp [hmem, Ne.symm hother]

/-- Names of arguments stay distinct. -/
theorem nodup_setArgument {read : List (String × String)} (h : (read.map Prod.fst).Nodup)
    (name value : String) : ((setArgument read name value).map Prod.fst).Nodup := by
  rw [map_fst_setArgument]
  split
  · exact h
  · next hnew =>
    rw [← List.concat_eq_append]
    exact h.concat hnew

/-- An argument that is set has the new text, and the others keep theirs. -/
theorem mem_setArgument_iff {read : List (String × String)} (h : (read.map Prod.fst).Nodup)
    {name value other text : String} :
    (other, text) ∈ setArgument read name value ↔
      other = name ∧ text = value ∨ other ≠ name ∧ (other, text) ∈ read := by
  induction read with
  | nil => simp [setArgument]
  | cons first rest ih =>
    obtain ⟨key, old⟩ := first
    obtain ⟨hkey, hrest⟩ := List.nodup_cons.1 h
    rw [setArgument]
    by_cases hname : key = name
    · subst hname
      have hnot : ∀ t, (key, t) ∉ rest := fun t ht => hkey (List.mem_map.2 ⟨_, ht, rfl⟩)
      rw [if_pos rfl, List.mem_cons, List.mem_cons, Prod.mk.injEq, Prod.mk.injEq]
      constructor
      · rintro (hnew | hold)
        · exact .inl hnew
        · refine .inr ⟨?_, .inr hold⟩
          rintro rfl
          exact hnot text hold
      · rintro (hnew | ⟨hne, ⟨heq, -⟩ | hold⟩)
        · exact .inl hnew
        · exact absurd heq hne
        · exact .inr hold
    · rw [if_neg hname, List.mem_cons, List.mem_cons, ih hrest, Prod.mk.injEq]
      constructor
      · rintro (⟨rfl, rfl⟩ | hnew | ⟨hne, hold⟩)
        · exact .inr ⟨hname, .inl ⟨rfl, rfl⟩⟩
        · exact .inl hnew
        · exact .inr ⟨hne, .inr hold⟩
      · rintro (hnew | ⟨hne, hfirst | hold⟩)
        · exact .inr (.inl hnew)
        · exact .inl hfirst
        · exact .inr (.inr ⟨hne, hold⟩)

/-- The arguments that are decoded are those the mapping passes on. -/
theorem mem_arguments_iff {read texts : List (String × String)} {given : Entries}
    (hread : (read.map Prod.fst).Nodup) (h : arguments place read given = .ok texts)
    {name text : String} :
    (name, text) ∈ texts ↔
      given.Passes name text ∨ (name, text) ∈ read ∧ ∀ e ∈ given, e.1.plain? ≠ some name := by
  induction given generalizing read with
  | nil =>
    cases h
    constructor
    · intro hmem
      exact .inr ⟨hmem, by simp⟩
    · rintro (hpasses | ⟨hmem, -⟩)
      · cases hpasses
      · exact hmem
  | cons first rest ih =>
    obtain ⟨key, value⟩ := first
    obtain ⟨written, hwritten, h⟩ := exists_of_bind_eq_ok h
    obtain ⟨decoded, hdecoded, h⟩ := exists_of_bind_eq_ok h
    rw [written_eq_ok_iff] at hwritten
    rw [scalar_eq_ok_iff] at hdecoded
    rw [ih (nodup_setArgument hread written decoded) h, mem_setArgument_iff hread]
    constructor
    · rintro (hlater | ⟨⟨rfl, rfl⟩ | ⟨hne, hold⟩, hlast⟩)
      · exact .inl (.there hlater)
      · exact .inl (.here hwritten hdecoded hlast)
      · refine .inr ⟨hold, List.forall_mem_cons.2 ⟨?_, hlast⟩⟩
        rw [hwritten, ne_eq, Option.some.injEq]
        exact Ne.symm hne
    · rintro (hpasses | ⟨hold, hnone⟩)
      · cases hpasses with
        | here plain scalar last =>
          cases hwritten.symm.trans plain
          cases hdecoded.symm.trans scalar
          exact .inr ⟨.inl ⟨rfl, rfl⟩, last⟩
        | there later => exact .inl later
      · obtain ⟨hfirst, hlast⟩ := List.forall_mem_cons.1 hnone
        rw [hwritten, ne_eq, Option.some.injEq] at hfirst
        exact .inr ⟨.inr ⟨Ne.symm hfirst, hold⟩, hlast⟩

/-- The first repeat is one of the named places, and behind another one with the same name
or a name seen before. -/
theorem firstRepeat?_eq_some {seen : List String} {named : List (α × String)} {k : α × String}
    (h : firstRepeat? seen named = some k) :
    k ∈ named ∧ (k.2 ∈ seen ∨ ∃ earlier, [(earlier, k.2), k].Sublist named) := by
  induction named generalizing seen with
  | nil => cases h
  | cons first rest ih =>
    obtain ⟨a, name⟩ := first
    rw [firstRepeat?] at h
    split at h
    · next hold =>
      cases h
      exact ⟨List.mem_cons_self, .inl (List.contains_iff_mem.1 hold)⟩
    · obtain ⟨hmem, hk⟩ := ih h
      refine ⟨List.mem_cons_of_mem _ hmem, ?_⟩
      rcases hk with hseen | ⟨earlier, hsub⟩
      · rcases List.mem_cons.1 hseen with hname | hseen
        · rw [hname]
          exact .inr ⟨a, (List.singleton_sublist.2 hmem).cons_cons _⟩
        · exact .inl hseen
      · exact .inr ⟨earlier, hsub.cons _⟩

end Items

/-! ## Categories -/

section Categories

variable {d v : Document} {place : Location} {entries : Entries}

/-- A category is decoded from its name, its children and its documentation. -/
theorem category_eq_ok_iff {c : Category} :
    category place v = .ok c ↔
      ∃ entries value items, v.entries? = some entries ∧
        requiredName place entries "category" = .ok c.name ∧
        entries.present? "children" = some value ∧ value.items? = some items ∧ items ≠ [] ∧
        children (place.key "children") 0 items = .ok c.children ∧
        checkDistinct (place.key "children") (categoryNames 0 c.children) = .ok () ∧
        docs (place.key "docs") (entries.present? "docs") = .ok c.docs := by
  constructor
  · intro h
    rw [category] at h
    split at h
    · cases h
    · next entries hentries =>
      obtain ⟨name, hname, h⟩ := exists_of_bind_eq_ok h
      split at h
      · cases h
      · next value hvalue =>
        split at h
        · split at h <;> cases h
        · next items hitems =>
          split at h
          · cases h
          · next hempty =>
            obtain ⟨contents, hcontents, h⟩ := exists_of_bind_eq_ok h
            obtain ⟨⟨⟩, hdistinct, h⟩ := exists_of_bind_eq_ok h
            obtain ⟨documentation, hdocs, h⟩ := exists_of_bind_eq_ok h
            cases h
            rw [List.isEmpty_iff] at hempty
            exact ⟨entries, value, items, hentries, hname, hvalue, hitems, hempty, hcontents,
              hdistinct, hdocs⟩
  · rintro ⟨entries, value, items, hentries, hname, hvalue, hitems, hempty, hcontents, hdistinct,
      hdocs⟩
    rw [← List.isEmpty_eq_false_iff] at hempty
    rw [category]
    split
    · next hnone =>
      rw [hentries] at hnone
      cases hnone
    · next entries' hentries' =>
      cases hentries.symm.trans hentries'
      rw [bind_of_eq_ok hname]
      split
      · next hnone =>
        rw [hvalue] at hnone
        cases hnone
      · next value' hvalue' =>
        cases hvalue.symm.trans hvalue'
        split
        · next hnone =>
          rw [hitems] at hnone
          cases hnone
        · next items' hitems' =>
          cases hitems.symm.trans hitems'
          dsimp only
          rw [hempty, if_neg Bool.false_ne_true, bind_of_eq_ok hcontents, bind_of_eq_ok hdistinct,
            bind_of_eq_ok hdocs]
          rfl

/-- A child is decoded as a category or as a script, whichever of the two keys it has. -/
theorem children_cons_eq_ok_iff {i : Nat} {rest : List Document} {contents : Contents} :
    children place i (v :: rest) = .ok contents ↔
      (v.field? "category").isSome ∧ v.field? "name" = none ∧
          (∃ c, category (place.item i) v = .ok c ∧
            ∃ others, children place (i + 1) rest = .ok others ∧
              Contents.ofCategory c others = contents) ∨
        (v.field? "name").isSome ∧ v.field? "category" = none ∧
          ∃ s, script (place.item i) v = .ok s ∧
            ∃ others, children place (i + 1) rest = .ok others ∧
              Contents.script s others = contents := by
  rw [children]
  cases hentries : v.entries? with
  | none =>
    have hfield : ∀ field, v.field? field = none := by
      intro field
      rw [field?, hentries, Option.bind_none]
    rw [hfield, hfield]
    dsimp only
    split <;> simp [flaw]
  | some entries =>
    rw [field?_of_entries hentries, field?_of_entries hentries]
    dsimp only
    cases hcategory : entries.get? "category" <;> cases hname : entries.get? "name"
    · simp [flaw]
    · simp [bind_eq_ok_iff, pure, Except.pure]
    · simp [bind_eq_ok_iff, pure, Except.pure]
    · simp [flaw]

/-- What holds of a category where it holds of its children, and of some documents where it
holds of each, holds of all. -/
theorem nesting_induction {A : Location → Document → Prop}
    {B : Location → Nat → List Document → Prop}
    (parent : ∀ place v, (∀ value items, v.field? "children" = some value →
      value.items? = some items → B (place.key "children") 0 items) → A place v)
    (nil : ∀ place i, B place i [])
    (cons : ∀ place i v rest, A (place.item i) v → B place (i + 1) rest →
      B place i (v :: rest)) :
    (∀ place v, A place v) ∧ ∀ place i items, B place i items := by
  -- The place changes from a category to its children, so the induction is on a bound on the
  -- size of documents and lists alike.
  have hsize : ∀ n, (∀ place v, sizeOf v ≤ n → A place v) ∧
      ∀ place i items, sizeOf items ≤ n → B place i items := by
    intro n
    induction n with
    | zero =>
      constructor
      · intro place v hv
        cases v <;> simp at hv
      · intro place i items hitems
        cases items <;> simp at hitems
    | succ n ih =>
      obtain ⟨-, ihItems⟩ := ih
      have hcategory : ∀ place v, sizeOf v ≤ n + 1 → A place v := by
        intro place v hv
        refine parent place v fun value items hvalue hitems => ihItems _ 0 items ?_
        obtain ⟨entries, hentries, hget⟩ := field?_eq_some.1 hvalue
        have h1 := sizeOf_lt_of_entries hentries
        have h2 := Entries.sizeOf_lt_of_get? hget
        have h3 := sizeOf_lt_of_items hitems
        omega
      refine ⟨hcategory, ?_⟩
      intro place i items hitems
      cases items with
      | nil => exact nil place i
      | cons v rest =>
        have h1 := sizeOf_first_lt v rest
        have h2 := sizeOf_rest_lt v rest
        exact cons place i v rest (hcategory _ v (by omega)) (ihItems place (i + 1) rest (by omega))
  constructor
  · intro place v
    exact (hsize (sizeOf v)).1 place v (Nat.le_refl _)
  · intro place i items
    exact (hsize (sizeOf items)).2 place i items (Nat.le_refl _)

/-- A child is decoded at its site as a category or as a script, whose own place or the places
of the scripts below it are among the given ones. -/
inductive ChildAt (site : Location) (item : Document) (places : List (Location × String)) : Prop
  | category {c : Category} (has_category : (item.field? "category").isSome)
      (no_name : item.field? "name" = none) (decoded : category site item = .ok c)
      (below : scriptPlaces (site.key "children") 0 c.children ⊆ places) :
      ChildAt site item places
  | script {s : Script} (has_name : (item.field? "name").isSome)
      (no_category : item.field? "category" = none) (decoded : script site item = .ok s)
      (mem : (site, s.name) ∈ places) : ChildAt site item places

/-- The places may be among more. -/
theorem ChildAt.mono {site : Location} {item : Document} {places more : List (Location × String)}
    (h : ChildAt site item places) (hsub : places ⊆ more) : ChildAt site item more := by
  cases h with
  | category has_category no_name decoded below =>
    exact .category has_category no_name decoded (List.Subset.trans below hsub)
  | script has_name no_category decoded mem =>
    exact .script has_name no_category decoded (hsub mem)

/-- Every item among decoded children is decoded at its place. -/
theorem childAt_of_getElem? {i j : Nat} {items : List Document} {contents : Contents}
    (h : children place i items = .ok contents) {item : Document} (hitem : items[j]? = some item) :
    ChildAt (place.item (i + j)) item (scriptPlaces place i contents) := by
  induction items generalizing i j contents with
  | nil => cases hitem
  | cons first rest ih =>
    rcases children_cons_eq_ok_iff.1 h with
      ⟨hcategory, hscript, c, hc, others, hothers, rfl⟩ |
      ⟨hscript, hcategory, s, hs, others, hothers, rfl⟩
    · cases j with
      | zero =>
        cases hitem
        exact .category hcategory hscript hc (List.subset_append_left _ _)
      | succ j =>
        rw [Nat.add_comm j 1, ← Nat.add_assoc]
        exact (ih hothers hitem).mono (List.subset_append_right _ _)
    · cases j with
      | zero =>
        cases hitem
        exact .script hscript hcategory hs List.mem_cons_self
      | succ j =>
        rw [Nat.add_comm j 1, ← Nat.add_assoc]
        exact (ih hothers hitem).mono (List.subset_cons_self _ _)

end Categories

/-! ## Names -/

section Names

variable {α : Type} {d v : Document} {place : Location} {entries : Entries}

/-- A decoded parameter has the name in its document. -/
theorem fieldText?_of_parameter {p : Parameter} (h : parameter place v = .ok p) :
    v.fieldText? "name" = some p.name := by
  obtain ⟨entries, hmapping, h⟩ := exists_of_bind_eq_ok h
  obtain ⟨name, hname, h⟩ := exists_of_bind_eq_ok h
  rw [fieldText?_eq_some, field?_of_entries (mapping_eq_ok_iff.1 hmapping),
    (requiredName_eq_ok_iff.1 hname).1]
  split at h
  · cases h
  · obtain ⟨optional, -, h⟩ := exists_of_bind_eq_ok h
    obtain ⟨value, -, h⟩ := exists_of_bind_eq_ok h
    cases h
    rfl

/-- A decoded script has the name in its document. -/
theorem fieldText?_of_script {s : Script} (h : script place v = .ok s) :
    v.fieldText? "name" = some s.name := by
  obtain ⟨entries, hmapping, h⟩ := exists_of_bind_eq_ok h
  obtain ⟨name, hname, h⟩ := exists_of_bind_eq_ok h
  rw [fieldText?_eq_some, field?_of_entries (mapping_eq_ok_iff.1 hmapping),
    (requiredName_eq_ok_iff.1 hname).1]
  obtain ⟨⟨code, revertCode, callee⟩, -, h⟩ := exists_of_bind_eq_ok h
  obtain ⟨recommend, -, h⟩ := exists_of_bind_eq_ok h
  obtain ⟨called, -, h⟩ := exists_of_bind_eq_ok h
  obtain ⟨documentation, -, h⟩ := exists_of_bind_eq_ok h
  cases h
  rfl

/-- A decoded function has the name in its document. -/
theorem fieldText?_of_function {f : Function} (h : function place v = .ok f) :
    v.fieldText? "name" = some f.name := by
  obtain ⟨entries, hmapping, h⟩ := exists_of_bind_eq_ok h
  obtain ⟨name, hname, h⟩ := exists_of_bind_eq_ok h
  rw [fieldText?_eq_some, field?_of_entries (mapping_eq_ok_iff.1 hmapping),
    (requiredName_eq_ok_iff.1 hname).1]
  obtain ⟨declared, -, h⟩ := exists_of_bind_eq_ok h
  obtain ⟨params, -, h⟩ := exists_of_bind_eq_ok h
  obtain ⟨⟨code, revertCode, callee⟩, -, h⟩ := exists_of_bind_eq_ok h
  obtain ⟨called, -, h⟩ := exists_of_bind_eq_ok h
  obtain ⟨⟨⟩, -, h⟩ := exists_of_bind_eq_ok h
  obtain ⟨codeTemplate, -, h⟩ := exists_of_bind_eq_ok h
  obtain ⟨revertTemplate, -, h⟩ := exists_of_bind_eq_ok h
  cases h
  rfl

/-- A decoded category has the name in its document. -/
theorem fieldText?_of_category {c : Category} (h : category place v = .ok c) :
    v.fieldText? "category" = some c.name := by
  obtain ⟨entries, value, items, hentries, hname, -⟩ := category_eq_ok_iff.1 h
  rw [fieldText?_eq_some, field?_of_entries hentries]
  exact (requiredName_eq_ok_iff.1 hname).1

/-- The names of decoded things are those of the items. -/
theorem indexed_eq_namesIn {decode : Location → Document → Result α} {name : α → String}
    {field : String}
    (hname : ∀ site item a, decode site item = .ok a → item.fieldText? field = some (name a))
    {i : Nat} {items : List Document} {results : List α}
    (h : each decode place i items = .ok results) :
    indexed name i results = namesIn field i items := by
  induction items generalizing i results with
  | nil => cases h; rfl
  | cons item rest ih =>
    obtain ⟨first, hfirst, h⟩ := exists_of_bind_eq_ok h
    obtain ⟨others, hothers, h⟩ := exists_of_bind_eq_ok h
    cases h
    rw [namesIn, hname _ item first hfirst, indexed, ih hothers]

/-- The categories among decoded children have the names of the items that have one. -/
theorem categoryNames_eq_namesIn {i : Nat} {items : List Document} {contents : Contents}
    (h : children place i items = .ok contents) :
    categoryNames i contents = namesIn "category" i items := by
  induction items generalizing i contents with
  | nil =>
    rw [children] at h
    cases h
    rfl
  | cons item rest ih =>
    rcases children_cons_eq_ok_iff.1 h with
      ⟨-, -, c, hc, others, hothers, rfl⟩ | ⟨-, hcategory, s, hs, others, hothers, rfl⟩
    · rw [namesIn, fieldText?_of_category hc, Contents.ofCategory, categoryNames, ih hothers]
    · have hnone : item.fieldText? "category" = none := by
        rw [fieldText?, hcategory]
      rw [namesIn, hnone, categoryNames, ih hothers]

end Names

/-! ## Places of scripts -/

section ScriptPlaces

variable {d v : Document} {place : Location}

/-- Items are children of a category, from the one with the given index on. -/
structure ChildrenOf (d : Document) (base : Location) (v : Document) (i : Nat)
    (items : List Document) : Prop where
  part : d.Part .category base v
  listed : ∀ j item, items[j]? = some item → v.Listed "children" (i + j) item

/-- Without the first child the others are children still. -/
theorem ChildrenOf.rest {base : Location} {i : Nat} {item : Document} {rest : List Document}
    (h : ChildrenOf d base v i (item :: rest)) : ChildrenOf d base v (i + 1) rest := by
  refine ⟨h.part, fun j other hother => ?_⟩
  rw [Nat.add_assoc, Nat.add_comm 1 j]
  exact h.listed (j + 1) other hother

/-- The scripts below some contents lie in the items from the given index on. -/
theorem exists_of_mem_scriptPlaces {i : Nat} {contents : Contents} {k : Location × String}
    (h : k ∈ scriptPlaces place i contents) :
    ∃ j rest, i ≤ j ∧ k.1 = place.item j ++ rest := by
  induction contents generalizing place i with
  | empty => cases h
  | script s rest ih =>
    rcases List.mem_cons.1 h with rfl | h
    · exact ⟨i, [], Nat.le_refl i, (List.append_nil _).symm⟩
    · obtain ⟨j, steps, hj, hk⟩ := ih h
      exact ⟨j, steps, by omega, hk⟩
  | category name docs below rest ihBelow ihRest =>
    rcases List.mem_append.1 h with h | h
    · obtain ⟨j, steps, -, hk⟩ := ihBelow h
      refine ⟨i, .key "children" :: .index j :: steps, Nat.le_refl i, ?_⟩
      rw [hk]
      simp [Location.key, Location.item]
    · obtain ⟨j, steps, hj, hk⟩ := ihRest h
      exact ⟨j, steps, by omega, hk⟩

/-- What is in an item comes before all scripts in the items behind it. -/
theorem before_of_mem_scriptPlaces {i : Nat} {rest : Contents} {k : Location × String}
    (h : k ∈ scriptPlaces place (i + 1) rest) (steps : Location) :
    (place.item i ++ steps).Before k.1 := by
  obtain ⟨j, others, hj, hk⟩ := exists_of_mem_scriptPlaces h
  rw [hk]
  exact Location.before_of_lt hj place steps others

/-- The places of scripts stand in the order of the document. -/
theorem pairwise_scriptPlaces (place : Location) (i : Nat) (contents : Contents) :
    (scriptPlaces place i contents).Pairwise fun k l => k.1.Before l.1 := by
  induction contents generalizing place i with
  | empty => exact .nil
  | script s rest ih =>
    refine List.pairwise_cons.2 ⟨fun k hk => ?_, ih place (i + 1)⟩
    simpa using before_of_mem_scriptPlaces hk []
  | category name docs below rest ihBelow ihRest =>
    refine List.pairwise_append.2 ⟨ihBelow _ 0, ihRest place (i + 1), fun k hk l hl => ?_⟩
    obtain ⟨j, steps, -, hplace⟩ := exists_of_mem_scriptPlaces hk
    have hbefore := before_of_mem_scriptPlaces hl (.key "children" :: .index j :: steps)
    rw [hplace]
    simpa [Location.key, Location.item] using hbefore

/-- The places of all scripts are those in the categories. -/
theorem mem_allScriptPlaces_iff {i : Nat} {actions : List Category} {k : Location × String} :
    k ∈ allScriptPlaces place i actions ↔ ∃ j c, actions[j]? = some c ∧
      k ∈ scriptPlaces ((place.item (i + j)).key "children") 0 c.children := by
  induction actions generalizing i with
  | nil => simp [allScriptPlaces]
  | cons first rest ih =>
    rw [allScriptPlaces, List.mem_append, ih]
    constructor
    · rintro (h | ⟨j, c, hc, h⟩)
      · exact ⟨0, first, rfl, h⟩
      · refine ⟨j + 1, c, hc, ?_⟩
        rwa [Nat.add_comm j 1, ← Nat.add_assoc]
    · rintro ⟨j, c, hc, h⟩
      cases j with
      | zero =>
        cases hc
        exact .inl h
      | succ j =>
        rw [Nat.add_comm j 1, ← Nat.add_assoc] at h
        exact .inr ⟨j, c, hc, h⟩

/-- The places of all scripts stand in the order of the document. -/
theorem pairwise_allScriptPlaces (place : Location) (i : Nat) (actions : List Category) :
    (allScriptPlaces place i actions).Pairwise fun k l => k.1.Before l.1 := by
  induction actions generalizing i with
  | nil => exact .nil
  | cons first rest ih =>
    refine List.pairwise_append.2 ⟨pairwise_scriptPlaces _ 0 _, ih (i + 1), fun k hk l hl => ?_⟩
    obtain ⟨j, c, -, hl⟩ := mem_allScriptPlaces_iff.1 hl
    obtain ⟨m, steps, -, hk⟩ := exists_of_mem_scriptPlaces hk
    obtain ⟨n, others, -, hl⟩ := exists_of_mem_scriptPlaces hl
    have hlt : i < i + 1 + j := by omega
    have hbefore := Location.before_of_lt hlt place (.key "children" :: .index m :: steps)
      (.key "children" :: .index n :: others)
    rw [hk, hl]
    simpa [Location.key, Location.item] using hbefore

/-- The places worked out for the scripts below a category are those of its scripts. -/
theorem named_of_mem_scriptPlaces :
    (∀ place v, d.Part .category place v → ∀ c, category place v = .ok c →
        ∀ k ∈ scriptPlaces (place.key "children") 0 c.children, d.Named .script k.1 k.2) ∧
      ∀ place i items base v, place = Location.key base "children" →
        ChildrenOf d base v i items → ∀ contents, children place i items = .ok contents →
        ∀ k ∈ scriptPlaces place i contents, d.Named .script k.1 k.2 := by
  apply nesting_induction
  case parent =>
    intro place v ih h c hc
    obtain ⟨entries, value, items, hentries, -, hvalue, hitems, -, hcontents, -⟩ :=
      category_eq_ok_iff.1 hc
    have hfield := field?_of_present? hentries hvalue
    refine ih value items hfield hitems place v rfl ⟨h, fun j item hitem => ?_⟩ _ hcontents
    rw [Nat.zero_add]
    exact ⟨value, items, hfield, hitems, hitem⟩
  case nil =>
    intro place i base v _ _ contents hcontents
    rw [children] at hcontents
    cases hcontents
    simp [scriptPlaces]
  case cons =>
    rintro place i item rest ihCategory ihRest base v rfl h contents hcontents k hk
    have hlisted := h.listed 0 item rfl
    rcases children_cons_eq_ok_iff.1 hcontents with
      ⟨hcategory, hscript, c, hc, others, hothers, rfl⟩ |
      ⟨hscript, hcategory, s, hs, others, hothers, rfl⟩
    · rcases List.mem_append.1 hk with hk | hk
      · exact ihCategory (.category h.part hlisted hcategory hscript) c hc k hk
      · exact ihRest base v rfl h.rest others hothers k hk
    · rcases List.mem_cons.1 hk with rfl | hk
      · exact ⟨item, .script h.part hlisted hscript hcategory, fieldText?_of_script hs⟩
      · exact ihRest base v rfl h.rest others hothers k hk

/-- Every child of a decoded category is decoded at its place. -/
theorem childAt_of_listed {c : Category} (hc : category place v = .ok c) {j : Nat}
    {item : Document} (h : v.Listed "children" j item) :
    ChildAt ((place.key "children").item j) item
      (scriptPlaces (place.key "children") 0 c.children) := by
  obtain ⟨entries, value, items, hentries, -, hvalue, hitems, -, hcontents, -⟩ :=
    category_eq_ok_iff.1 hc
  obtain ⟨value', items', hvalue', hitems', hitem⟩ := h
  cases (field?_of_present? hentries hvalue).symm.trans hvalue'
  cases hitems.symm.trans hitems'
  have hchild := childAt_of_getElem? hcontents hitem
  rwa [Nat.zero_add] at hchild

section Named

variable {raw : Document} {items : List Document} {actions : List Category}

/-- Every category of the document is decoded, and the scripts in it are among all scripts. -/
theorem exists_category_of_part (hraw : d.field? "actions" = some raw)
    (hitems : raw.items? = some items)
    (hactions : each category [.key "actions"] 0 items = .ok actions) {noun : Noun}
    (h : d.Part noun place v) :
    noun = .category → ∃ c, category place v = .ok c ∧
      scriptPlaces (place.key "children") 0 c.children ⊆
        allScriptPlaces [.key "actions"] 0 actions := by
  induction h with
  | @action i w listed =>
    rintro -
    obtain ⟨value, others, hvalue, hothers, hitem⟩ := listed
    cases hraw.symm.trans hvalue
    cases hitems.symm.trans hothers
    obtain ⟨c, hc, hdecode⟩ := exists_getElem?_of_each hactions hitem
    rw [Nat.zero_add] at hdecode
    refine ⟨c, hdecode, fun k hk => mem_allScriptPlaces_iff.2 ⟨i, c, hc, ?_⟩⟩
    rwa [Nat.zero_add]
  | @category base i w child within listed hcategory _ ih =>
    rintro -
    obtain ⟨c, hc, hsub⟩ := ih rfl
    cases childAt_of_listed hc listed with
    | category _ _ decoded below => exact ⟨_, decoded, List.Subset.trans below hsub⟩
    | script _ no_category _ _ =>
      rw [no_category] at hcategory
      cases hcategory
  | _ =>
    intro hnoun
    cases hnoun

/-- The places that are worked out for scripts are those of the scripts of the document. -/
theorem mem_allScriptPlaces_iff_named (hraw : d.field? "actions" = some raw)
    (hitems : raw.items? = some items)
    (hactions : each category [.key "actions"] 0 items = .ok actions) {k : Location × String} :
    k ∈ allScriptPlaces [.key "actions"] 0 actions ↔ d.Named .script k.1 k.2 := by
  constructor
  · intro hk
    obtain ⟨j, c, hc, hk⟩ := mem_allScriptPlaces_iff.1 hk
    obtain ⟨item, hitem, hcategory⟩ := exists_of_getElem?_each hactions hc
    rw [Nat.zero_add] at hk hcategory
    exact named_of_mem_scriptPlaces.1 _ item (.action ⟨raw, items, hraw, hitems, hitem⟩) c
      hcategory k hk
  · obtain ⟨place, name⟩ := k
    rintro ⟨v, hpart, hname⟩
    cases hpart with
    | script within listed hscript _ =>
      obtain ⟨c, hc, hsub⟩ := exists_category_of_part hraw hitems hactions within rfl
      cases childAt_of_listed hc listed with
      | category _ no_name _ _ =>
        rw [no_name] at hscript
        cases hscript
      | script _ _ decoded mem =>
        cases (fieldText?_of_script decoded).symm.trans hname
        exact hsub mem

end Named

end ScriptPlaces

end Decode

end Tweaks
