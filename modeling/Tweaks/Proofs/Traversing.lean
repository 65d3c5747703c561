import Tweaks.Proofs.Emitting
import Tweaks.Proofs.Visiting

/-!
# Traversals and indexes

A collection is gone through in several ways.  A walk goes through its scripts, another
traversal through its categories, and a third one, when the collection is built, through its
scripts with their places, to enter each under its name; functions are entered likewise.  In a
decoded collection all of these tell of the same document.

Main results:

- `Index.add_eq`: entering things under their names fails exactly at the first name that is
  taken.
- `indexes_eq`: the indexes of a collection are built where its names are distinct, and hold
  its functions and its scripts in order.
- `walk_ne_nil`: where no category is empty, a walk meets a script.
- `inOrder_functions`: the functions of a decoded collection are those of the document, in its
  order.
- `mirrors_of_ofDocument`: what the traversals and the indexes of a decoded collection say.
-/

namespace Tweaks

/-! ## Indexes -/

/-- Things under their names, in the order in which they were entered. -/
abbrev Index (α : Type) := List (String × α)

namespace Index

variable {α κ : Type} {name : α → String} {index : Index α}

/-- What is entered under a name. -/
def get? (index : Index α) (name : String) : Option α :=
  (index.find? fun entry => entry.1 = name).map Prod.snd

/-- The things that are entered, in order. -/
def values (index : Index α) : List α :=
  index.map Prod.snd

/-- Enters things under their names, up to the first whose name is taken: that name, and the
place of the thing. -/
def add (name : α → String) : Index α → List (κ × α) → Except (κ × String) (Index α)
  | index, [] => .ok index
  | index, (place, a) :: rest =>
    if (index.get? (name a)).isSome then .error (place, name a)
    else add name (index ++ [(name a, a)]) rest

/-- A list of things, each under its name. -/
def ofList (name : α → String) (things : List α) : Index α :=
  things.map fun a => (name a, a)

/-- Something is entered under a name exactly if the name is one of the entries'. -/
theorem isSome_get?_iff {text : String} :
    (index.get? text).isSome ↔ text ∈ index.map Prod.fst := by
  rw [get?, Option.isSome_map, List.find?_isSome, List.mem_map]
  simp

/-- Things are entered, with their names, behind those that are there; the first repeat of a
name is the end. -/
theorem add_eq (seen : List String) (placed : List (κ × α))
    (hseen : ∀ text, text ∈ seen ↔ text ∈ index.map Prod.fst) :
    add name index placed =
      match Decode.firstRepeat? seen (placed.map fun k => (k.1, name k.2)) with
      | some k => .error k
      | none => .ok (index ++ ofList name (placed.map Prod.snd)) := by
  induction placed generalizing seen index with
  | nil => simp [add, Decode.firstRepeat?, ofList]
  | cons first rest ih =>
    obtain ⟨place, a⟩ := first
    have htaken : (index.get? (name a)).isSome = seen.contains (name a) := by
      rw [Bool.eq_iff_iff, isSome_get?_iff, List.contains_iff_mem, hseen]
    rw [add, List.map_cons, Decode.firstRepeat?, htaken]
    split
    · rfl
    · rw [ih (name a :: seen) (by simp [hseen, or_comm])]
      simp [ofList]

/-- Things are found under their names in order. -/
theorem get?_ofList (things : List α) (text : String) :
    (ofList name things).get? text = things.find? fun a => name a = text := by
  rw [get?, ofList, List.find?_map, Option.map_map]
  simp [Function.comp_def]

/-- What is entered is the list. -/
theorem values_ofList (things : List α) : (ofList name things).values = things := by
  simp [values, ofList, Function.comp_def]

end Index

/-- The scripts below, depth first, with their places. -/
def Contents.scriptsAt (place : Location) : (i : Nat) → Contents → List (Location × Script)
  | _, empty => []
  | i, script s rest => (place.item i, s) :: scriptsAt place (i + 1) rest
  | i, category _ _ children rest =>
    scriptsAt ((place.item i).key "children") 0 children ++ scriptsAt place (i + 1) rest

/-- All scripts, depth first, with their places. -/
def allScriptsAt (place : Location) : (i : Nat) → List Category → List (Location × Script)
  | _, [] => []
  | i, k :: rest =>
    k.children.scriptsAt ((place.item i).key "children") 0 ++ allScriptsAt place (i + 1) rest

/-- Things with the indices at which they stand. -/
def numbered {α : Type} : (i : Nat) → List α → List (Nat × α)
  | _, [] => []
  | i, a :: rest => (i, a) :: numbered (i + 1) rest

/-- The functions and the scripts of a collection under their names, or where the first name
stands that is taken. -/
def Collection.indexes (c : Collection) : Decode.Result (Index Function × Index Script) :=
  match Index.add Function.name [] (numbered 0 c.functions) with
  | .error (i, name) =>
    Decode.flaw [.key "functions", .index i, .key "name"] (.repeatedFunction name)
  | .ok functions =>
    match Index.add Script.name [] (allScriptsAt [.key "actions"] 0 c.actions) with
    | .error (place, name) => Decode.flaw (place.key "name") (.repeatedScript name)
    | .ok scripts => .ok (functions, scripts)

/-! ## The search for repeated names -/

/-- The places that are searched for repeated names are those of the scripts. -/
theorem Contents.map_name_scriptsAt (contents : Contents) (place : Location) (i : Nat) :
    (contents.scriptsAt place i).map (fun k => (k.1, k.2.name)) =
      Decode.scriptPlaces place i contents := by
  induction contents generalizing place i with
  | empty => rfl
  | script s rest ih => rw [scriptsAt, Decode.scriptPlaces, List.map_cons, ih]
  | category name docs children rest ihChildren ihRest =>
    rw [scriptsAt, Decode.scriptPlaces, List.map_append, ihChildren, ihRest]

/-- The scripts with places are those that a walk visits. -/
theorem Contents.map_snd_scriptsAt (contents : Contents) (place : Location) (i : Nat)
    (trail : List String) :
    (contents.scriptsAt place i).map Prod.snd = (contents.walk trail).map Prod.snd := by
  induction contents generalizing place i trail with
  | empty => rfl
  | script s rest ih => rw [scriptsAt, walk, List.map_cons, List.map_cons, ih _ _ trail]
  | category name docs children rest ihChildren ihRest =>
    rw [scriptsAt, walk, List.map_append, List.map_append, ihChildren _ _ (trail ++ [name]),
      ihRest _ _ trail]

/-- The places that are searched for repeated names are those of all scripts. -/
theorem map_name_allScriptsAt (place : Location) (i : Nat) (actions : List Category) :
    (allScriptsAt place i actions).map (fun k => (k.1, k.2.name)) =
      Decode.allScriptPlaces place i actions := by
  induction actions generalizing i with
  | nil => rfl
  | cons k rest ih =>
    rw [allScriptsAt, Decode.allScriptPlaces, List.map_append, Contents.map_name_scriptsAt, ih]

/-- All scripts with places are those that a walk visits. -/
theorem map_snd_allScriptsAt (place : Location) (i : Nat) (actions : List Category) :
    (allScriptsAt place i actions).map Prod.snd =
      (actions.flatMap Category.walk).map Prod.snd := by
  induction actions generalizing i with
  | nil => rfl
  | cons k rest ih =>
    rw [allScriptsAt, List.flatMap_cons, List.map_append, List.map_append, ih,
      Contents.map_snd_scriptsAt _ _ _ [k.name], Category.walk]

section Numbered

variable {α : Type} {things : List α} {i : Nat}

/-- The names with indices are those of the things with indices. -/
theorem map_name_numbered (name : α → String) (i : Nat) (things : List α) :
    (numbered i things).map (fun k => (k.1, name k.2)) = Decode.indexed name i things := by
  induction things generalizing i with
  | nil => rfl
  | cons a rest ih => rw [numbered, Decode.indexed, List.map_cons, ih]

/-- Without the indices the things are left. -/
theorem map_snd_numbered (i : Nat) (things : List α) :
    (numbered i things).map Prod.snd = things := by
  induction things generalizing i with
  | nil => rfl
  | cons a rest ih => rw [numbered, List.map_cons, ih]

/-- A thing has the index at which it stands. -/
theorem mem_numbered_iff {k : Nat × α} :
    k ∈ numbered i things ↔ ∃ j, k.1 = i + j ∧ things[j]? = some k.2 := by
  induction things generalizing i with
  | nil => simp [numbered]
  | cons a rest ih =>
    rw [numbered, List.mem_cons, ih]
    constructor
    · rintro (rfl | ⟨j, hj, hk⟩)
      · exact ⟨0, rfl, rfl⟩
      · exact ⟨j + 1, by omega, hk⟩
    · rintro ⟨j, hj, hk⟩
      cases j with
      | zero =>
        obtain ⟨m, b⟩ := k
        cases hj
        cases hk
        exact .inl rfl
      | succ j => exact .inr ⟨j, by omega, hk⟩

/-- Indices are in ascending order. -/
theorem pairwise_numbered (i : Nat) (things : List α) :
    (numbered i things).Pairwise fun k l => k.1 < l.1 := by
  induction things generalizing i with
  | nil => exact .nil
  | cons a rest ih =>
    refine List.pairwise_cons.2 ⟨fun k hk => ?_, ih (i + 1)⟩
    obtain ⟨j, hj, -⟩ := mem_numbered_iff.1 hk
    dsimp only
    omega

end Numbered

/-- The indexes are built exactly where the names are distinct, and hold the functions and the
scripts; otherwise building them fails where the names are found to repeat. -/
theorem Collection.indexes_eq (c : Collection) :
    c.indexes = (Decode.checkNames c).map fun _ =>
      (Index.ofList Function.name c.functions, Index.ofList Script.name c.scripts) := by
  rw [indexes, Decode.checkNames, Index.add_eq [] _ (by simp), Index.add_eq [] _ (by simp),
    map_name_numbered, map_snd_numbered, map_name_allScriptsAt, map_snd_allScriptsAt]
  cases Decode.firstRepeat? [] (Decode.indexed Function.name 0 c.functions) with
  | some k => rfl
  | none =>
    cases Decode.firstRepeat? [] (Decode.allScriptPlaces [.key "actions"] 0 c.actions) with
    | some k => rfl
    | none => rfl

/-! ## Scripts in every category -/

/-- Where something stands and no category is empty, a walk meets a script. -/
theorem Contents.walk_ne_nil {contents : Contents} (hsome : contents ≠ .empty)
    (hfilled : ∀ k ∈ contents.allCategories, k.children ≠ .empty) (trail : List String) :
    contents.walk trail ≠ [] := by
  induction contents generalizing trail with
  | empty => exact absurd rfl hsome
  | script s rest _ => exact List.cons_ne_nil _ _
  | category name docs children rest ihChildren _ =>
    have hchildren : children ≠ .empty := hfilled ⟨name, docs, children⟩ List.mem_cons_self
    have hbelow := ihChildren hchildren (fun k hk => hfilled k
      (List.mem_append_left _ (List.mem_cons_of_mem _ hk))) (trail ++ [name])
    rw [walk]
    exact List.append_ne_nil_of_left_ne_nil hbelow _

namespace Collection

variable {d : Document} {c : Collection}

/-- Every category of a decoded collection contains a script. -/
theorem exists_holds_of_ofDocument (h : ofDocument d = .ok c) {k : Category}
    (hk : k ∈ c.categories) : ∃ s, k.Holds s := by
  have hfilled : ∀ other ∈ c.categories, other.children ≠ .empty := by
    intro other hother
    obtain ⟨place, v, -, hdecoded⟩ := (inOrder_categories h).exists_part hother
    exact Decode.children_ne_empty hdecoded
  have hbelow : ∀ other ∈ k.children.allCategories, other.children ≠ .empty := by
    intro other hother
    obtain ⟨top, htop, hreach⟩ := mem_categories_iff.1 hk
    have hother' := Category.mem_all_iff.1 (List.mem_cons_of_mem k hother)
    exact hfilled other (mem_categories_iff.2 ⟨top, htop, hreach.trans hother'⟩)
  obtain ⟨⟨trail, s⟩, hvisit⟩ :=
    List.exists_mem_of_ne_nil _ (Contents.walk_ne_nil (hfilled k hk) hbelow [])
  exact ⟨s, Category.holds_iff.2 (Contents.mem_map_snd_walk_iff.1 (List.mem_map_of_mem hvisit))⟩

/-! ## Functions -/

/-- The functions of a decoded collection are decoded from the items under its functions. -/
theorem exists_functions_of_ofDocument (h : ofDocument d = .ok c) :
    ∃ items, (∀ j item, items[j]? = some item ↔ d.Listed "functions" j item) ∧
      Decode.each Decode.function [.key "functions"] 0 items = .ok c.functions := by
  obtain ⟨entries, hmapping, h⟩ := Stepwise.exists_of_bind_eq_ok h
  obtain ⟨name, -, h⟩ := Stepwise.exists_of_bind_eq_ok h
  obtain ⟨os, -, h⟩ := Stepwise.exists_of_bind_eq_ok h
  obtain ⟨language, -, h⟩ := Stepwise.exists_of_bind_eq_ok h
  obtain ⟨raw, -, h⟩ := Stepwise.exists_of_bind_eq_ok h
  obtain ⟨items, -, h⟩ := Stepwise.exists_of_bind_eq_ok h
  split at h
  · cases h
  · obtain ⟨actions, -, h⟩ := Stepwise.exists_of_bind_eq_ok h
    obtain ⟨-, -, h⟩ := Stepwise.exists_of_bind_eq_ok h
    obtain ⟨definitions, hdefinitions, h⟩ := Stepwise.exists_of_bind_eq_ok h
    obtain ⟨functions, hfunctions, h⟩ := Stepwise.exists_of_bind_eq_ok h
    obtain ⟨⟨⟩, -, h⟩ := Stepwise.exists_of_bind_eq_ok h
    cases h
    have hentries := Decode.mapping_eq_ok_iff.1 hmapping
    refine ⟨definitions, fun j item => ⟨Decode.listed_of_filled hentries hdefinitions, ?_⟩,
      hfunctions⟩
    rintro ⟨value, listed, hvalue, hlisted, hitem⟩
    rw [Document.field?_of_entries hentries] at hvalue
    cases hfalsy : value.isFalsy with
    | true =>
      -- A list that counts as nothing has no items.
      cases value with
      | list others =>
        cases hlisted
        rw [Document.isFalsy, List.isEmpty_iff] at hfalsy
        rw [hfalsy] at hitem
        cases hitem
      | _ => simp [Document.items?, Document.isFalsy] at hlisted hfalsy
    | false =>
      rw [Decode.filled?_eq_some.2 ⟨hvalue, hfalsy⟩] at hdefinitions
      cases hlisted.symm.trans (Decode.list_eq_ok_iff.1 hdefinitions)
      exact hitem

/-- The functions of a collection are those of the document, in its order. -/
theorem inOrder_functions (h : ofDocument d = .ok c) :
    d.InOrder .function (fun place v f => Decode.function place v = .ok f) c.functions := by
  obtain ⟨items, hlisted, hfunctions⟩ := exists_functions_of_ofDocument h
  have hplaced : c.functions = ((numbered 0 c.functions).map fun k =>
      ((Location.key [] "functions").item k.1, k.2)).map Prod.snd := by
    rw [List.map_map]
    exact (map_snd_numbered 0 c.functions).symm
  rw [hplaced]
  refine Document.inOrder_of_placed ?_ (fun k hk => ?_) fun place v hpart => ?_
  · refine List.pairwise_map.2 ((pairwise_numbered 0 c.functions).imp fun hlt => .inr ?_)
    simpa using Location.before_of_lt hlt (Location.key [] "functions") [] []
  · obtain ⟨⟨j, f⟩, hf, rfl⟩ := List.mem_map.1 hk
    obtain ⟨m, rfl, hf⟩ := mem_numbered_iff.1 hf
    obtain ⟨item, hitem, hdecoded⟩ := Decode.exists_of_getElem?_each hfunctions hf
    rw [Nat.zero_add] at hdecoded ⊢
    exact ⟨item, .function ((hlisted m item).1 hitem), hdecoded⟩
  · cases hpart with
    | @function i _ listed =>
      obtain ⟨f, hf, -⟩ :=
        Decode.exists_getElem?_of_each hfunctions ((hlisted i v).2 listed)
      exact ⟨f, List.mem_map.2 ⟨(i, f), mem_numbered_iff.2 ⟨i, (Nat.zero_add i).symm, hf⟩, rfl⟩⟩

/-! ## Traversals and indexes of a decoded collection -/

/-- The traversals and the indexes of a collection tell of one document.  A walk visits its
scripts once each, in its order, with the names of the categories around each; the categories
and the functions are listed likewise.  No two scripts have the same name, and no two
functions.  The indexes are built, answer as the collection does, and hold its scripts and
functions in order.  A name finds the script that the walk meets under it, if any, and
likewise for functions.  The names of the categories are those that the walk takes along, and
each of them selects a script. -/
structure Mirrors (c : Collection) (d : Document) : Prop where
  walk : d.InOrder .script (fun place v visit =>
    Decode.script place v = .ok visit.2 ∧ d.Surrounds visit.1 place) c.walk
  categories : d.InOrder .category (fun place v k => Decode.category place v = .ok k) c.categories
  functions : d.InOrder .function (fun place v f => Decode.function place v = .ok f) c.functions
  script_names : (c.walk.map fun visit => visit.2.name).Nodup
  function_names : (c.functions.map Function.name).Nodup
  indexes : ∃ functions scripts, c.indexes = .ok (functions, scripts) ∧
    (∀ name, functions.get? name = c.getFunction? name) ∧ functions.values = c.functions ∧
    (∀ name, scripts.get? name = c.getScript? name) ∧ scripts.values = c.scripts
  scripts : c.scripts = c.walk.map Prod.snd
  getScript?_eq_some : ∀ name s,
    c.getScript? name = some s ↔ s.name = name ∧ ∃ trail, (trail, s) ∈ c.walk
  getScript?_eq_none : ∀ name,
    c.getScript? name = none ↔ ∀ visit ∈ c.walk, visit.2.name ≠ name
  getFunction?_eq_some : ∀ name f,
    c.getFunction? name = some f ↔ f.name = name ∧ f ∈ c.functions
  getFunction?_eq_none : ∀ name,
    c.getFunction? name = none ↔ ∀ f ∈ c.functions, f.name ≠ name
  trails : ∀ name, name ∈ c.categories.map Category.name ↔ ∃ visit ∈ c.walk, name ∈ visit.1
  selects : ∀ name ∈ c.categories.map Category.name, ∀ direction,
    Compilation.check c ⟨none, some [name], none, direction⟩ = .ok () ∧
      Compilation.selected c ⟨none, some [name], none, direction⟩ ≠ []

/-- Where no two things have the same name, one is found under a name exactly if it has it. -/
theorem find?_eq_some_iff_of_nodup {α : Type} {name : α → String} {things : List α}
    (hnodup : (things.map name).Nodup) {text : String} {a : α} :
    (things.find? fun b => name b = text) = some a ↔ name a = text ∧ a ∈ things := by
  constructor
  · intro h
    exact ⟨by simpa using List.find?_some h, List.mem_of_find?_eq_some h⟩
  · rintro ⟨rfl, ha⟩
    exact find?_of_nodup_names hnodup ha

/-- The names of the categories of a decoded collection are those that a walk takes along. -/
theorem mem_names_categories_iff (h : ofDocument d = .ok c) {name : String} :
    name ∈ c.categories.map Category.name ↔ ∃ visit ∈ c.walk, name ∈ visit.1 := by
  constructor
  · intro hname
    obtain ⟨k, hk, rfl⟩ := List.mem_map.1 hname
    obtain ⟨s, hs⟩ := exists_holds_of_ofDocument h hk
    obtain ⟨trail, hvisit, hmem⟩ := exists_trail_of_category (mem_categories_iff.1 hk) hs
    exact ⟨_, hvisit, hmem⟩
  · rintro ⟨⟨trail, s⟩, hvisit, hname⟩
    obtain ⟨k, hk, rfl, -⟩ := exists_category_of_mem_trail hvisit hname
    exact List.mem_map_of_mem (mem_categories_iff.2 hk)

/-- In a decoded collection the traversals and the indexes tell of its document. -/
theorem mirrors_of_ofDocument (h : ofDocument d = .ok c) : c.Mirrors d := by
  have hloaded := Decode.loaded_of_ofDocument h
  have hscripts := hloaded.scripts_nodup
  obtain ⟨hnames, -⟩ := Decode.exists_definitions_of_ofDocument h
  constructor
  · exact inOrder_walk h
  · exact inOrder_categories h
  · exact inOrder_functions h
  · rwa [scripts, List.map_map] at hscripts
  · exact hloaded.functions_nodup
  · refine ⟨_, _, ?_, Index.get?_ofList _, Index.values_ofList _, Index.get?_ofList _,
      Index.values_ofList _⟩
    rw [indexes_eq, hnames]
    rfl
  · rfl
  · intro name s
    have hmem : s ∈ c.scripts ↔ ∃ trail, (trail, s) ∈ c.walk := by simp [scripts]
    rw [getScript?, find?_eq_some_iff_of_nodup hscripts, hmem]
  · intro name
    simp [getScript?, scripts]
  · intro name f
    exact find?_eq_some_iff_of_nodup hloaded.functions_nodup
  · intro name
    simp [getFunction?]
  · exact fun name => mem_names_categories_iff h
  · intro name hname direction
    constructor
    · refine Compilation.check_eq_ok_iff.2 ⟨by rintro _ ⟨⟩, ?_⟩
      rintro _ ⟨⟩ other hother
      obtain ⟨k, hk, hkname⟩ := List.mem_map.1 hname
      exact ⟨k, mem_categories_iff.1 hk, hkname.trans (List.mem_singleton.1 hother).symm⟩
    · obtain ⟨⟨trail, s⟩, hvisit, hmem⟩ := (mem_names_categories_iff h).1 hname
      refine List.ne_nil_of_mem (Compilation.mem_selected_iff.2 ⟨trail, hvisit, ?_⟩)
      simp [Selection.matchesScript, Selection.takes, Selection.takesName, Selection.takesTrail,
        Selection.takesLevel, hmem]

/-- In the sample, the second script is met behind both categories, and the inner one
selects it. -/
theorem sample_mirrors :
    sample.walk = [(["Privacy"], ⟨"Clear history", none, none, [⟨"Outer", []⟩], none, []⟩),
      (["Privacy", "Services"],
        ⟨"Stop service", some "stop", some "start", [], some .strict, []⟩)] ∧
    sample.categories.map Category.name = ["Privacy", "Services"] ∧
    sample.Mirrors sampleDocument ∧
    Compilation.selected sample ⟨none, some ["Services"], none, .revert⟩ ≠ [] := by
  have hmirrors := mirrors_of_ofDocument ofDocument_sample
  have hnames : sample.categories.map Category.name = ["Privacy", "Services"] := by decide
  refine ⟨by decide, hnames, hmirrors, ?_⟩
  exact (hmirrors.selects "Services" (by rw [hnames]; decide) .revert).2

end Collection

end Tweaks
