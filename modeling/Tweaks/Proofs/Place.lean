import Tweaks.Collection.Flaw

/-!
# Places and parts of documents

What stands at a place of a document, and which parts of a collection's document stand
where: the categories under its actions, the scripts and categories under their children,
the functions, their parameters, and calls.

Main results:

- `render_eq_written`: how a location is written.
- `mem_namesIn`, `pairwise_namesIn`, `map_snd_namesIn`: the names of a list's items.
- `Part.found`, `Part.spot`: every part is found at its place.
-/

namespace Tweaks

/-! ## Locations -/

namespace Location

/-- A step that follows others, written out. -/
def stepText : Step → String
  | .key name => "." ++ name
  | .index i => "[" ++ Document.numberText i ++ "]"

/-- Steps that follow others, written out. -/
def tailText : Location → String
  | [] => ""
  | step :: rest => stepText step ++ tailText rest

/-- A location in words: keys with dots between them, indices in brackets, and nothing
for the root. -/
def written : Location → String
  | .key name :: rest => name ++ tailText rest
  | location => tailText location

/-- Behind a step that is not empty, every further step is added as it is written. -/
theorem foldl_renderStep {path : String} (h : path ≠ "") (rest : Location) :
    rest.foldl renderStep path = path ++ tailText rest := by
  induction rest generalizing path with
  | nil => rw [List.foldl_nil, tailText, String.append_empty]
  | cons step rest ih =>
    have hstep : renderStep path step = path ++ stepText step := by
      cases step with
      | key name => simp [renderStep, stepText, h, String.append_assoc]
      | index i => simp [renderStep, stepText, String.append_assoc]
    have hne : path ++ stepText step ≠ "" := by simp [h]
    rw [List.foldl_cons, hstep, ih hne, tailText, String.append_assoc]

/-- A location is rendered as it is written, unless it starts with an empty key. -/
theorem render_eq_written {location : Location} (h : location.head? ≠ some (.key "")) :
    location.render = location.written := by
  cases location with
  | nil => rfl
  | cons step rest =>
    cases step with
    | key name =>
      have hname : name ≠ "" := by
        rintro rfl
        exact h rfl
      rw [render, List.foldl_cons, renderStep, written]
      simpa using foldl_renderStep hname rest
    | index i =>
      rw [render, List.foldl_cons, renderStep, written, tailText, stepText]
      · simpa using foldl_renderStep (by simp) rest
      · intro name others hcons
        cases hcons

/-- The first of two places comes before the second: of the lists they both lie in, it is
in the innermost one that they go apart, and there the first has the smaller index. -/
def Before (p q : Location) : Prop :=
  ∃ common i j rest rest', i < j ∧ p = common ++ .index i :: rest ∧
    q = common ++ .index j :: rest'

/-- Of two items of one list, what is in the earlier one comes before what is in the
later one. -/
theorem before_of_lt {i j : Nat} (h : i < j) (location rest rest' : Location) :
    Before (location.item i ++ rest) (location.item j ++ rest') :=
  ⟨location, i, j, rest, rest', h, by simp [item], by simp [item]⟩

/-- No place comes before itself. -/
theorem not_before_self (p : Location) : ¬ p.Before p := by
  rintro ⟨common, i, j, rest, rest', hlt, hi, hj⟩
  rw [hi] at hj
  have hsteps := List.append_cancel_left hj
  rw [List.cons.injEq, Step.index.injEq] at hsteps
  exact Nat.ne_of_lt hlt hsteps.1

end Location

/-! ## Places of a document -/

namespace Document

/-- The value of a mapping's field. -/
def field? (d : Document) (name : String) : Option Document :=
  d.entries?.bind fun entries => entries.get? name

/-- The text under a mapping's field. -/
def fieldText? (d : Document) (name : String) : Option String :=
  match d.field? name with
  | some (.text value) => some value
  | _ => none

/-- A value is found at a place of a document. -/
inductive At (d : Document) : Location → Document → Prop
  | root : At d [] d
  | entry {place : Location} {v key value : Document} {entries : Entries} {name : String}
      (within : At d place v) (mapping : v.entries? = some entries)
      (entry : (key, value) ∈ entries) (plain : key.plain? = some name) :
      At d (place.key name) value
  | item {place : Location} {v value : Document} {items : List Document} {i : Nat}
      (within : At d place v) (list : v.items? = some items) (item : items[i]? = some value) :
      At d (place.item i) value

/-- The text that a scalar stands for, unless it is a number too long to be written. -/
def scalarText? : Document → Option String
  | null => some ""
  | bool value => some (if value then "true" else "false")
  | int value => integerText? value
  | float value => some (Decimal.text value)
  | text value => some value
  | _ => none

/-- An item stands in the list under a field. -/
def Listed (d : Document) (field : String) (i : Nat) (item : Document) : Prop :=
  ∃ value items, d.field? field = some value ∧ value.items? = some items ∧
    items[i]? = some item

/-- The texts under a field of the items. -/
def textsUnder (field : String) (items : List Document) : List String :=
  items.filterMap fun v => v.fieldText? field

/-- The text of an item that has one comes first. -/
theorem textsUnder_cons_of_eq_some {field text : String} {v : Document}
    (h : v.fieldText? field = some text) (rest : List Document) :
    textsUnder field (v :: rest) = text :: textsUnder field rest := by
  rw [textsUnder, List.filterMap_cons, h]
  rfl

/-- An item without a text adds none. -/
theorem textsUnder_cons_of_eq_none {field : String} {v : Document}
    (h : v.fieldText? field = none) (rest : List Document) :
    textsUnder field (v :: rest) = textsUnder field rest := by
  rw [textsUnder, List.filterMap_cons, h]
  rfl

/-- The texts under a field of the items, with the items' indices. -/
def namesIn (field : String) : (i : Nat) → List Document → List (Nat × String)
  | _, [] => []
  | i, v :: rest =>
    match v.fieldText? field with
    | some name => (i, name) :: namesIn field (i + 1) rest
    | none => namesIn field (i + 1) rest

/-- A name is listed with the index of an item that has it. -/
theorem mem_namesIn {field : String} {i : Nat} {items : List Document} {k : Nat × String}
    (h : k ∈ namesIn field i items) :
    ∃ j v, k.1 = i + j ∧ items[j]? = some v ∧ v.fieldText? field = some k.2 := by
  induction items generalizing i with
  | nil => cases h
  | cons v rest ih =>
    have hrest : k ∈ namesIn field (i + 1) rest →
        ∃ j w, k.1 = i + j ∧ (v :: rest)[j]? = some w ∧ w.fieldText? field = some k.2 := by
      intro hk
      obtain ⟨j, w, hj, hw, hname⟩ := ih hk
      exact ⟨j + 1, w, by omega, hw, hname⟩
    rw [namesIn] at h
    split at h
    · next name hname =>
      rcases List.mem_cons.1 h with rfl | h
      · exact ⟨0, v, rfl, rfl, hname⟩
      · exact hrest h
    · exact hrest h

/-- Names are listed in the order of the items. -/
theorem pairwise_namesIn (field : String) (i : Nat) (items : List Document) :
    (namesIn field i items).Pairwise fun k l => k.1 < l.1 := by
  induction items generalizing i with
  | nil => exact .nil
  | cons v rest ih =>
    rw [namesIn]
    split
    · refine List.pairwise_cons.2 ⟨?_, ih (i + 1)⟩
      intro k hk
      obtain ⟨j, -, hj, -⟩ := mem_namesIn hk
      dsimp only
      omega
    · exact ih (i + 1)

/-- Without their indices, the names are the texts under the field. -/
theorem map_snd_namesIn (field : String) (i : Nat) (items : List Document) :
    (namesIn field i items).map Prod.snd = textsUnder field items := by
  induction items generalizing i with
  | nil => rfl
  | cons v rest ih =>
    rw [namesIn]
    cases hname : v.fieldText? field with
    | none => rw [textsUnder_cons_of_eq_none hname, ih (i + 1)]
    | some name => rw [textsUnder_cons_of_eq_some hname, List.map_cons, ih (i + 1)]

end Document

/-- A mapping passes a text on under a name: of the entries whose keys read as the name, the
last has a scalar that stands for the text. -/
inductive Entries.Passes : Entries → String → String → Prop
  | here {key value : Document} {rest : Entries} {name text : String}
      (plain : key.plain? = some name) (scalar : value.scalarText? = some text)
      (last : ∀ e ∈ rest, e.1.plain? ≠ some name) : Passes ((key, value) :: rest) name text
  | there {first : Document × Document} {rest : Entries} {name text : String}
      (later : Passes rest name text) : Passes (first :: rest) name text

/-- What is passed on under a name is the value of an entry. -/
theorem Entries.Passes.exists_mem {entries : Entries} {name text : String}
    (h : entries.Passes name text) :
    ∃ key value, (key, value) ∈ entries ∧ key.plain? = some name := by
  induction h with
  | here plain _ _ => exact ⟨_, _, List.mem_cons_self, plain⟩
  | there _ ih =>
    obtain ⟨key, value, hmem, hplain⟩ := ih
    exact ⟨key, value, List.mem_cons_of_mem _ hmem, hplain⟩

/-- What the parts of a collection's document describe. -/
inductive Noun where
  | collection
  | scripting
  | category
  | script
  | function
  | parameter
  | call
deriving DecidableEq, Repr

namespace Noun

/-- The fields that have to be there. -/
def requiredFields : Noun → List String
  | collection => ["os", "actions"]
  | scripting => ["language", "startCode", "endCode"]
  | category => ["category", "children"]
  | script => ["name"]
  | function => ["name"]
  | parameter => ["name"]
  | call => ["function"]

/-- The field with the name. -/
def nameField : Noun → String
  | category => "category"
  | _ => "name"

/-- Fields that have to be there are not the empty text. -/
theorem ne_empty_of_mem_requiredFields {noun : Noun} {field : String}
    (h : field ∈ noun.requiredFields) : field ≠ "" := by
  rintro rfl
  revert h
  cases noun <;> decide

end Noun

namespace Document

/-- The parts of a collection's document, each at its place. -/
inductive Part (d : Document) : Noun → Location → Document → Prop
  | collection : Part d .collection [] d
  | scripting {v : Document} (value : d.field? "scripting" = some v) :
      Part d .scripting (Location.key [] "scripting") v
  | action {i : Nat} {v : Document} (listed : d.Listed "actions" i v) :
      Part d .category ((Location.key [] "actions").item i) v
  | function {i : Nat} {v : Document} (listed : d.Listed "functions" i v) :
      Part d .function ((Location.key [] "functions").item i) v
  | category {place : Location} {i : Nat} {v child : Document}
      (within : Part d .category place v) (listed : v.Listed "children" i child)
      (category : (child.field? "category").isSome) (not_script : child.field? "name" = none) :
      Part d .category ((place.key "children").item i) child
  | script {place : Location} {i : Nat} {v child : Document}
      (within : Part d .category place v) (listed : v.Listed "children" i child)
      (script : (child.field? "name").isSome) (not_category : child.field? "category" = none) :
      Part d .script ((place.key "children").item i) child
  | parameter {place : Location} {i : Nat} {v p : Document}
      (within : Part d .function place v) (listed : v.Listed "parameters" i p) :
      Part d .parameter ((place.key "parameters").item i) p
  | call {noun : Noun} {place : Location} {v c : Document}
      (owner : noun = .function ∨ noun = .script) (within : Part d noun place v)
      (value : v.field? "call" = some c) (mapping : c.entries?.isSome) :
      Part d .call (place.key "call") c
  | calls {noun : Noun} {place : Location} {i : Nat} {v c : Document}
      (owner : noun = .function ∨ noun = .script) (within : Part d noun place v)
      (listed : v.Listed "call" i c) :
      Part d .call ((place.key "call").item i) c

/-- A part has that name. -/
def Named (d : Document) (noun : Noun) (place : Location) (name : String) : Prop :=
  ∃ v, d.Part noun place v ∧ v.fieldText? noun.nameField = some name

/-- Two parts have the same name, the first of which comes before the second.  But for
scripts, whose names are distinct all over the document, they stand in one list. -/
structure Repeats (d : Document) (noun : Noun) (name : String) (earlier later : Location) :
    Prop where
  first : d.Named noun earlier name
  second : d.Named noun later name
  before : earlier.Before later
  siblings : noun ≠ .script → ∃ list i j, earlier = Location.item list i ∧
    later = Location.item list j

/-- The place is that of a field that a part has to have, but lacks. -/
def Lacks (d : Document) (location : Location) : Prop :=
  ∃ noun place v entries field, d.Part noun place v ∧ d.At place v ∧
    v.entries? = some entries ∧ field ∈ noun.requiredFields ∧
    entries.present? field = none ∧ location = place.key field

end Document

namespace Document

/-- A value is found at a place that does not start with an empty key. -/
structure Spot (d : Document) (place : Location) (v : Document) : Prop where
  found : d.At place v
  headed : place.head? ≠ some (.key "")

end Document

/-! ## Fields and items -/

/-- What is found under a name is the value of an entry with that text as its key. -/
theorem Entries.mem_of_get?_eq_some {entries : Entries} {name : String} {value : Document}
    (h : entries.get? name = some value) : (.text name, value) ∈ entries := by
  induction entries with
  | nil => cases h
  | cons first rest ih =>
    obtain ⟨key, v⟩ := first
    rw [Entries.get?] at h
    split at h
    · next hkey =>
      cases h
      cases key with
      | text other =>
        rw [Document.isText, decide_eq_true_eq] at hkey
        rw [hkey]
        exact List.mem_cons_self
      | _ => cases hkey
    · exact List.mem_cons_of_mem _ (ih h)

namespace Document

variable {d v : Document} {place : Location} {entries : Entries} {noun : Noun}

/-- The value of a field is found among the entries of the mapping. -/
theorem field?_eq_some {field : String} {value : Document} :
    v.field? field = some value ↔ ∃ entries, v.entries? = some entries ∧
      entries.get? field = some value := by
  rw [field?, Option.bind_eq_some_iff]

/-- In a mapping the fields are those of its entries. -/
theorem field?_of_entries (h : v.entries? = some entries) (field : String) :
    v.field? field = entries.get? field := by
  rw [field?, h, Option.bind_some]

/-- A value that is present is that of the field. -/
theorem field?_of_present? (h : v.entries? = some entries) {field : String} {value : Document}
    (hvalue : entries.present? field = some value) : v.field? field = some value := by
  rw [field?_of_entries h]
  exact (Entries.present?_eq_some.1 hvalue).1

/-- The text under a field is its value. -/
theorem fieldText?_eq_some {field text : String} :
    v.fieldText? field = some text ↔ v.field? field = some (.text text) := by
  rw [fieldText?]
  split
  · next value hvalue => simp [hvalue]
  · next hother =>
    constructor
    · intro h
      cases h
    · intro h
      exact absurd h (hother text)

/-- The value of a field is found under the field's place. -/
theorem At.field (h : d.At place v) {field : String} {value : Document}
    (hvalue : v.field? field = some value) : d.At (place.key field) value := by
  obtain ⟨entries, hentries, hget⟩ := field?_eq_some.1 hvalue
  exact .entry h hentries (Entries.mem_of_get?_eq_some hget) (plain?_text field)

/-- An item of the list under a field is found under the field's place. -/
theorem At.listed (h : d.At place v) {field : String} {i : Nat} {item : Document}
    (hitem : v.Listed field i item) : d.At ((place.key field).item i) item := by
  obtain ⟨value, items, hvalue, hitems, hget⟩ := hitem
  exact .item (h.field hvalue) hitems hget

/-- Parts are found at their places. -/
theorem Part.found (h : d.Part noun place v) : d.At place v := by
  induction h with
  | collection => exact .root
  | scripting value => exact At.root.field value
  | action listed => exact At.root.listed listed
  | function listed => exact At.root.listed listed
  | category within listed _ _ ih => exact ih.listed listed
  | script within listed _ _ ih => exact ih.listed listed
  | parameter within listed ih => exact ih.listed listed
  | call owner within value _ ih => exact ih.field value
  | calls owner within listed ih => exact ih.listed listed

/-- Behind a place that does not start with an empty key there is no such place, unless
the key is the first. -/
theorem head?_key (h : place.head? ≠ some (.key "")) {name : String}
    (hname : place ≠ [] ∨ name ≠ "") : (place.key name).head? ≠ some (.key "") := by
  cases place with
  | nil => simpa [Location.key] using hname
  | cons step rest => simpa [Location.key] using h

/-- An index changes nothing about the first key. -/
theorem head?_item (h : place.head? ≠ some (.key "")) (i : Nat) :
    (place.item i).head? ≠ some (.key "") := by
  cases place with
  | nil => simp [Location.item]
  | cons step rest => simpa [Location.item] using h

/-- The value of a field has its place, if the field has a name. -/
theorem Spot.field (h : d.Spot place v) {field : String} {value : Document}
    (hvalue : v.field? field = some value) (hname : field ≠ "") :
    d.Spot (place.key field) value :=
  ⟨h.found.field hvalue, head?_key h.headed (.inr hname)⟩

/-- An item of a list has its place. -/
theorem Spot.item (h : d.Spot place v) {items : List Document} {i : Nat} {item : Document}
    (hitems : v.items? = some items) (hitem : items[i]? = some item) :
    d.Spot (place.item i) item :=
  ⟨.item h.found hitems hitem, head?_item h.headed i⟩

/-- Parts have their places. -/
theorem Part.spot (h : d.Part noun place v) : d.Spot place v := by
  refine ⟨h.found, ?_⟩
  induction h with
  | collection => simp
  | scripting _ => simp [Location.key]
  | action _ => simp [Location.key, Location.item]
  | function _ => simp [Location.key, Location.item]
  | category _ _ _ _ ih => exact head?_item (head?_key ih (.inr (by decide))) _
  | script _ _ _ _ ih => exact head?_item (head?_key ih (.inr (by decide))) _
  | parameter _ _ ih => exact head?_item (head?_key ih (.inr (by decide))) _
  | call _ _ _ _ ih => exact head?_key ih (.inr (by decide))
  | calls _ _ _ ih => exact head?_item (head?_key ih (.inr (by decide))) _

end Document

end Tweaks
