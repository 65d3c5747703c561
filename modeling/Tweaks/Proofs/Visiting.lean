import Tweaks.Proofs.Listing

/-!
# Visits to the parts of a collection

Going through the categories of a collection, depth first, every category and every script is
visited once.  What the walk, the list of categories and the search for repeated names go
through are these visits, each with a part of them left out.  A visit knows its place in the
document and the names around it; that both are right is shown for the visits once, and so
holds of everything that is read off them.

Main results:

- `Surrounds.child`: around a child are the categories around its category, and that category.
- `filterMap_scriptVisit?_visits`, `filterMap_category?_visits`: the walk and the categories of
  a collection are read off its visits.
- `pairwise_visits`: visits are made in the order of the document.
- `reads_of_mem_visits`: a visit is that of a part of the document, with what is decoded from
  it and the names of the categories around it.
- `exists_visit_of_category`, `exists_visit_of_script`: every category and every script of the
  document is visited.
- `inOrder_walk`, `inOrder_categories`: the walk and the categories of a decoded collection are
  read off the document in its order.
-/

namespace Tweaks

/-! ## The order of the document -/

namespace Location

/-- The second place lies within the first. -/
def Encloses (p q : Location) : Prop :=
  p <+: q ∧ p ≠ q

/-- The first place comes up before the second when a document is read from its start: it
encloses the second or comes before it. -/
def Precedes (p q : Location) : Prop :=
  p.Encloses q ∨ p.Before q

/-- No place precedes itself. -/
theorem not_precedes_self (p : Location) : ¬ p.Precedes p := by
  rintro (⟨-, hne⟩ | hbefore)
  · exact hne rfl
  · exact not_before_self p hbefore

/-- A place encloses what is behind it. -/
theorem encloses_append (p : Location) {steps : Location} (h : steps ≠ []) :
    p.Encloses (p ++ steps) :=
  ⟨List.prefix_append p steps, by simpa using h⟩

/-- An item of a list under a key is enclosed by the place of the key's mapping and by what
encloses that, where only places of items count. -/
theorem encloses_item_iff {site place : Location} {field : String} {i : Nat}
    (hsite : ∃ base j, site = item base j) :
    site.Encloses ((place.key field).item i) ↔ site = place ∨ site.Encloses place := by
  obtain ⟨base, j, rfl⟩ := hsite
  constructor
  · rintro ⟨hpre, hne⟩
    rcases List.prefix_concat_iff.1 hpre with heq | hpre
    · exact absurd heq hne
    rcases List.prefix_concat_iff.1 hpre with heq | hpre
    · -- The place of an item does not end in a key.
      have hlast := congrArg List.getLast? heq
      simp [item] at hlast
    · by_cases heq : item base j = place
      · exact .inl heq
      · exact .inr ⟨hpre, heq⟩
  · have hinside : place.Encloses ((place.key field).item i) := by
      rw [key, item, List.append_assoc]
      exact encloses_append place (by simp)
    rintro (heq | ⟨hpre, hne⟩)
    · rw [heq]
      exact hinside
    · refine ⟨hpre.trans hinside.1, fun heq => ?_⟩
      have hlong := hinside.1.length_le
      have hlength := congrArg List.length heq
      have hshort := hpre.length_le
      simp [key, item] at hlength hshort
      omega

end Location

namespace Document

variable {α : Type} {d : Document}

/-- Things are read off the parts of one kind, one off each, in the order in which the parts
stand in the document. -/
def InOrder (d : Document) (noun : Noun) (Reads : Location → Document → α → Prop)
    (things : List α) : Prop :=
  ∃ places : List Location, places.Nodup ∧ places.Pairwise Location.Precedes ∧
    (∀ place, place ∈ places ↔ ∃ v, d.Part noun place v) ∧
    List.Forall₂ (fun place a => ∃ v, d.Part noun place v ∧ Reads place v a) places things

/-- Names are those of the categories around a place, from the outermost in. -/
def Surrounds (d : Document) (trail : List String) (place : Location) : Prop :=
  ∃ around : List Location, around.Pairwise Location.Encloses ∧
    (∀ site, site ∈ around ↔ (∃ v, d.Part .category site v) ∧ site.Encloses place) ∧
    List.Forall₂ (d.Named .category) around trail

/-- Where things stand with their places, in order, each read off the part at its place, and
every part has one, they are read off in the order of the document. -/
theorem inOrder_of_placed {noun : Noun} {Reads : Location → Document → α → Prop}
    {placed : List (Location × α)}
    (horder : placed.Pairwise fun k l => k.1.Precedes l.1)
    (hreads : ∀ k ∈ placed, ∃ v, d.Part noun k.1 v ∧ Reads k.1 v k.2)
    (hparts : ∀ place v, d.Part noun place v → ∃ a, (place, a) ∈ placed) :
    d.InOrder noun Reads (placed.map Prod.snd) := by
  have hplaces : (placed.map Prod.fst).Pairwise Location.Precedes := List.pairwise_map.2 horder
  refine ⟨placed.map Prod.fst, hplaces.imp ?_, hplaces, fun place => ?_, ?_⟩
  · rintro p q hprecedes rfl
    exact Location.not_precedes_self p hprecedes
  · constructor
    · intro hplace
      obtain ⟨k, hk, rfl⟩ := List.mem_map.1 hplace
      obtain ⟨v, hpart, -⟩ := hreads k hk
      exact ⟨v, hpart⟩
    · rintro ⟨v, hpart⟩
      obtain ⟨a, ha⟩ := hparts place v hpart
      exact List.mem_map_of_mem ha
  · rw [List.forall₂_map_left_iff, List.forall₂_map_right_iff, List.forall₂_same]
    exact hreads

/-- Each thing that is read off a document is read off some part of it. -/
theorem InOrder.exists_part {noun : Noun} {Reads : Location → Document → α → Prop}
    {things : List α} (h : d.InOrder noun Reads things) {a : α} (ha : a ∈ things) :
    ∃ place v, d.Part noun place v ∧ Reads place v a := by
  obtain ⟨places, -, -, -, hreads⟩ := h
  obtain ⟨j, hj, rfl⟩ := List.getElem_of_mem ha
  have hplace := hreads.length_eq ▸ hj
  obtain ⟨v, hpart, hread⟩ := hreads.get hplace hj
  exact ⟨_, v, hpart, hread⟩

/-- A category is an item of a list. -/
theorem Part.exists_item {noun : Noun} {place : Location} {v : Document}
    (h : d.Part noun place v) (hnoun : noun = .category) :
    ∃ base i, place = Location.item base i := by
  cases h with
  | action => exact ⟨_, _, rfl⟩
  | category => exact ⟨_, _, rfl⟩
  | _ => cases hnoun

/-- No category is around what stands under the root. -/
theorem surrounds_action (field : String) (i : Nat) :
    d.Surrounds [] ((Location.key [] field).item i) := by
  refine ⟨[], .nil, fun site => ?_, .nil⟩
  constructor
  · simp
  · rintro ⟨⟨v, hpart⟩, hencloses⟩
    have hsite := hpart.exists_item rfl
    rcases (Location.encloses_item_iff hsite).1 hencloses with rfl | ⟨hpre, hne⟩
    · obtain ⟨base, j, hnil⟩ := hsite
      simp [Location.item] at hnil
    · exact absurd (List.prefix_nil.1 hpre) hne

/-- Around a child of a category are the categories around that one, and then itself. -/
theorem Surrounds.child {trail : List String} {place : Location} {name : String}
    (h : d.Surrounds trail place) (hname : d.Named .category place name) (field : String)
    (i : Nat) : d.Surrounds (trail ++ [name]) ((place.key field).item i) := by
  obtain ⟨around, horder, hmem, hnames⟩ := h
  refine ⟨around ++ [place], ?_, fun site => ?_, ?_⟩
  · refine List.pairwise_append.2 ⟨horder, List.pairwise_singleton _ _, ?_⟩
    intro site hsite other hother
    rw [List.mem_singleton.1 hother]
    exact ((hmem site).1 hsite).2
  · rw [List.mem_append, List.mem_singleton, hmem]
    constructor
    · rintro (⟨⟨v, hpart⟩, hencloses⟩ | rfl)
      · exact ⟨⟨v, hpart⟩, (Location.encloses_item_iff (hpart.exists_item rfl)).2
          (.inr hencloses)⟩
      · obtain ⟨v, hpart, -⟩ := hname
        exact ⟨⟨v, hpart⟩, (Location.encloses_item_iff (hpart.exists_item rfl)).2 (.inl rfl)⟩
    · rintro ⟨⟨v, hpart⟩, hencloses⟩
      rcases (Location.encloses_item_iff (hpart.exists_item rfl)).1 hencloses with
        rfl | hencloses
      · exact .inr rfl
      · exact .inl ⟨⟨v, hpart⟩, hencloses⟩
  · exact List.rel_append hnames (.cons hname .nil)

end Document

/-! ## Visits -/

/-- What stands in a category. -/
inductive Child where
  | script (s : Script)
  | category (k : Category)

namespace Child

/-- What a child is described by. -/
def noun : Child → Noun
  | script _ => .script
  | category _ => .category

/-- A child is decoded from a value at a place. -/
def DecodedFrom (place : Location) (v : Document) : Child → Prop
  | script s => Decode.script place v = .ok s
  | category k => Decode.category place v = .ok k

/-- A child is decoded from a value at a place, as what the one key it has says. -/
inductive Stands (place : Location) (v : Document) : Child → Prop
  | script {s : Script} (has_name : (v.field? "name").isSome)
      (no_category : v.field? "category" = none) (decoded : Decode.script place v = .ok s) :
      Stands place v (.script s)
  | category {k : Category} (has_category : (v.field? "category").isSome)
      (no_name : v.field? "name" = none) (decoded : Decode.category place v = .ok k) :
      Stands place v (.category k)

/-- What stands at a place is decoded from the value there. -/
theorem Stands.decodedFrom {place : Location} {v : Document} {child : Child}
    (h : child.Stands place v) : child.DecodedFrom place v := by
  cases h with
  | script _ _ decoded => exact decoded
  | category _ _ decoded => exact decoded

/-- What stands under the children of a category is a part of the document. -/
theorem Stands.part {d v item : Document} {place site : Location} {j : Nat} {child : Child}
    (h : child.Stands site item) (within : d.Part .category place v)
    (listed : v.Listed "children" j item) :
    d.Part child.noun ((place.key "children").item j) item := by
  cases h with
  | script has_name no_category _ => exact .script within listed has_name no_category
  | category has_category no_name _ => exact .category within listed has_category no_name

end Child

/-- A visit to a script or category: its place in the document, and the names of the
categories around it. -/
structure Visit where
  place : Location
  trail : List String
  child : Child

namespace Visit

/-- What a walk says of a visit to a script. -/
def scriptVisit? : Visit → Option (List String × Script)
  | ⟨_, trail, .script s⟩ => some (trail, s)
  | ⟨_, _, .category _⟩ => none

/-- The category that is visited. -/
def category? : Visit → Option Category
  | ⟨_, _, .script _⟩ => none
  | ⟨_, _, .category k⟩ => some k

end Visit

namespace Contents

/-- What stands in a category, from the first child on. -/
def toList : Contents → List Child
  | empty => []
  | script s rest => .script s :: rest.toList
  | category name docs children rest => .category ⟨name, docs, children⟩ :: rest.toList

/-- The visits to the children, and below each to its own, depth first.  The children stand in
the list at `place` from the given index on, and `trail` names the categories around them. -/
def visits (place : Location) (trail : List String) : (i : Nat) → Contents → List Visit
  | _, empty => []
  | i, script s rest => ⟨place.item i, trail, .script s⟩ :: visits place trail (i + 1) rest
  | i, category name docs children rest =>
    ⟨place.item i, trail, .category ⟨name, docs, children⟩⟩ ::
      visits ((place.item i).key "children") (trail ++ [name]) 0 children ++
        visits place trail (i + 1) rest

variable {contents : Contents} {place : Location} {trail : List String} {i : Nat}

/-- A walk visits the scripts. -/
theorem filterMap_scriptVisit?_visits (contents : Contents) (place : Location)
    (trail : List String) (i : Nat) :
    (contents.visits place trail i).filterMap Visit.scriptVisit? = contents.walk trail := by
  induction contents generalizing place trail i with
  | empty => rfl
  | script s rest ih =>
    rw [visits, walk, List.filterMap_cons, ih]
    rfl
  | category name docs children rest ihChildren ihRest =>
    rw [visits, walk, List.cons_append, List.filterMap_cons, List.filterMap_append, ihChildren,
      ihRest]
    rfl

/-- The listed categories are those visited. -/
theorem filterMap_category?_visits (contents : Contents) (place : Location)
    (trail : List String) (i : Nat) :
    (contents.visits place trail i).filterMap Visit.category? = contents.allCategories := by
  induction contents generalizing place trail i with
  | empty => rfl
  | script s rest ih =>
    rw [visits, allCategories, List.filterMap_cons, ih]
    rfl
  | category name docs children rest ihChildren ihRest =>
    rw [visits, allCategories, List.cons_append, List.filterMap_cons, List.filterMap_append,
      ihChildren, ihRest]
    rfl

/-- Visits are to the items from the given index on, or to what is in them. -/
theorem exists_of_mem_visits {visit : Visit} (h : visit ∈ contents.visits place trail i) :
    ∃ j steps, i ≤ j ∧ visit.place = place.item j ++ steps := by
  induction contents generalizing place trail i with
  | empty => cases h
  | script s rest ih =>
    rcases List.mem_cons.1 h with rfl | h
    · exact ⟨i, [], Nat.le_refl i, (List.append_nil _).symm⟩
    · obtain ⟨j, steps, hj, hplace⟩ := ih h
      exact ⟨j, steps, by omega, hplace⟩
  | category name docs children rest ihChildren ihRest =>
    rw [visits, List.cons_append, List.mem_cons, List.mem_append] at h
    rcases h with rfl | h | h
    · exact ⟨i, [], Nat.le_refl i, (List.append_nil _).symm⟩
    · obtain ⟨j, steps, -, hplace⟩ := ihChildren h
      refine ⟨i, .key "children" :: .index j :: steps, Nat.le_refl i, ?_⟩
      rw [hplace]
      simp [Location.key, Location.item]
    · obtain ⟨j, steps, hj, hplace⟩ := ihRest h
      exact ⟨j, steps, by omega, hplace⟩

/-- What is in an item comes before all visits to the items behind it. -/
theorem before_of_mem_visits {visit : Visit}
    (h : visit ∈ contents.visits place trail (i + 1)) (steps : Location) :
    (place.item i ++ steps).Before visit.place := by
  obtain ⟨j, others, hj, hplace⟩ := exists_of_mem_visits h
  rw [hplace]
  exact Location.before_of_lt hj place steps others

/-- Visits are made in the order of the document. -/
theorem pairwise_visits (contents : Contents) (place : Location) (trail : List String)
    (i : Nat) :
    (contents.visits place trail i).Pairwise fun a b => a.place.Precedes b.place := by
  induction contents generalizing place trail i with
  | empty => exact .nil
  | script s rest ih =>
    refine List.pairwise_cons.2 ⟨fun visit hvisit => .inr ?_, ih place trail (i + 1)⟩
    simpa using before_of_mem_visits hvisit []
  | category name docs children rest ihChildren ihRest =>
    rw [visits, List.cons_append, List.pairwise_cons, List.pairwise_append]
    refine ⟨fun visit hvisit => ?_, ihChildren _ _ 0, ihRest place trail (i + 1),
      fun inside hinside behind hbehind => ?_⟩
    · rcases List.mem_append.1 hvisit with hinside | hbehind
      · obtain ⟨j, steps, -, hplace⟩ := exists_of_mem_visits hinside
        have hencloses : (place.item i).Encloses
            (place.item i ++ .key "children" :: .index j :: steps) :=
          Location.encloses_append _ (by simp)
        refine .inl ?_
        rw [hplace]
        simpa [Location.key, Location.item] using hencloses
      · refine .inr ?_
        simpa using before_of_mem_visits hbehind []
    · obtain ⟨j, steps, -, hplace⟩ := exists_of_mem_visits hinside
      have hbefore := before_of_mem_visits hbehind (.key "children" :: .index j :: steps)
      refine .inr ?_
      rw [hplace]
      simpa [Location.key, Location.item] using hbefore

/-- Every child is visited. -/
theorem mem_visits_of_getElem? {j : Nat} {child : Child}
    (h : contents.toList[j]? = some child) :
    ⟨place.item (i + j), trail, child⟩ ∈ contents.visits place trail i := by
  induction contents generalizing i j with
  | empty => cases h
  | script s rest ih =>
    cases j with
    | zero =>
      cases h
      exact List.mem_cons_self
    | succ j =>
      rw [Nat.add_comm j 1, ← Nat.add_assoc]
      exact List.mem_cons_of_mem _ (ih h)
  | category name docs children rest _ ihRest =>
    cases j with
    | zero =>
      cases h
      exact List.mem_cons_self
    | succ j =>
      rw [Nat.add_comm j 1, ← Nat.add_assoc]
      exact List.mem_cons_of_mem _ (List.mem_append_right _ (ihRest h))

/-- Where a category is visited, so are its children. -/
theorem mem_visits_child {site : Location} {outer : List String} {k : Category} {j : Nat}
    {child : Child} (h : ⟨site, outer, .category k⟩ ∈ contents.visits place trail i)
    (hchild : k.children.toList[j]? = some child) :
    ⟨(site.key "children").item j, outer ++ [k.name], child⟩ ∈
      contents.visits place trail i := by
  induction contents generalizing place trail i with
  | empty => cases h
  | script s rest ih =>
    rcases List.mem_cons.1 h with heq | h
    · cases heq
    · exact List.mem_cons_of_mem _ (ih h)
  | category name docs children rest ihChildren ihRest =>
    rw [visits, List.cons_append, List.mem_cons, List.mem_append] at h ⊢
    rcases h with heq | h | h
    · cases heq
      have hvisit : ⟨((place.item i).key "children").item (0 + j), outer ++ [name], child⟩ ∈
          children.visits ((place.item i).key "children") (outer ++ [name]) 0 :=
        mem_visits_of_getElem? hchild
      rw [Nat.zero_add] at hvisit
      exact .inr (.inl hvisit)
    · exact .inr (.inl (ihChildren h))
    · exact .inr (.inr (ihRest h))

end Contents

/-! ## What is visited -/

section Decoded

variable {d v : Document} {place : Location} {contents : Contents} {items : List Document}
  {i j : Nat} {child : Child}

namespace Decode

/-- As many children are decoded as there are items. -/
theorem length_toList_of_children (h : children place i items = .ok contents) :
    contents.toList.length = items.length := by
  induction items generalizing i contents with
  | nil =>
    rw [children] at h
    cases h
    rfl
  | cons first rest ih =>
    rcases children_cons_eq_ok_iff.1 h with
      ⟨-, -, k, -, others, hothers, rfl⟩ | ⟨-, -, s, -, others, hothers, rfl⟩
    · rw [Contents.ofCategory, Contents.toList, List.length_cons, List.length_cons, ih hothers]
    · rw [Contents.toList, List.length_cons, List.length_cons, ih hothers]

/-- A decoded child stands where its item does. -/
theorem exists_stands_of_children (h : children place i items = .ok contents)
    (hchild : contents.toList[j]? = some child) :
    ∃ item, items[j]? = some item ∧ child.Stands (place.item (i + j)) item := by
  induction items generalizing i j contents with
  | nil =>
    rw [children] at h
    cases h
    cases hchild
  | cons first rest ih =>
    rcases children_cons_eq_ok_iff.1 h with
      ⟨hcategory, hname, k, hk, others, hothers, rfl⟩ |
      ⟨hname, hcategory, s, hs, others, hothers, rfl⟩
    · cases j with
      | zero =>
        cases hchild
        exact ⟨first, rfl, .category hcategory hname hk⟩
      | succ j =>
        obtain ⟨item, hitem, hstands⟩ := ih hothers hchild
        rw [Nat.add_assoc, Nat.add_comm 1 j] at hstands
        exact ⟨item, hitem, hstands⟩
    · cases j with
      | zero =>
        cases hchild
        exact ⟨first, rfl, .script hname hcategory hs⟩
      | succ j =>
        obtain ⟨item, hitem, hstands⟩ := ih hothers hchild
        rw [Nat.add_assoc, Nat.add_comm 1 j] at hstands
        exact ⟨item, hitem, hstands⟩

/-- A child of a decoded category stands where its item does. -/
theorem exists_stands_of_category {k : Category} (hk : category place v = .ok k)
    (hchild : k.children.toList[j]? = some child) :
    ∃ item, v.Listed "children" j item ∧ child.Stands ((place.key "children").item j) item := by
  obtain ⟨entries, value, items, hentries, -, hvalue, hitems, -, hcontents, -⟩ :=
    category_eq_ok_iff.1 hk
  obtain ⟨item, hitem, hstands⟩ := exists_stands_of_children hcontents hchild
  rw [Nat.zero_add] at hstands
  exact ⟨item, ⟨value, items, Document.field?_of_present? hentries hvalue, hitems, hitem⟩,
    hstands⟩

/-- Every child that is listed in a decoded category stands there. -/
theorem exists_child_of_listed {k : Category} (hk : category place v = .ok k) {item : Document}
    (h : v.Listed "children" j item) :
    ∃ child, k.children.toList[j]? = some child ∧
      child.Stands ((place.key "children").item j) item := by
  obtain ⟨entries, value, items, hentries, -, hvalue, hitems, -, hcontents, -⟩ :=
    category_eq_ok_iff.1 hk
  obtain ⟨value', items', hvalue', hitems', hitem⟩ := h
  cases (Document.field?_of_present? hentries hvalue).symm.trans hvalue'
  cases hitems.symm.trans hitems'
  obtain ⟨hj, -⟩ := List.getElem?_eq_some_iff.1 hitem
  rw [← length_toList_of_children hcontents] at hj
  have hchild := List.getElem?_eq_getElem hj
  obtain ⟨other, hother, hstands⟩ := exists_stands_of_children hcontents hchild
  cases hitem.symm.trans hother
  rw [Nat.zero_add] at hstands
  exact ⟨_, hchild, hstands⟩

/-- A decoded category has children. -/
theorem children_ne_empty {k : Category} (hk : category place v = .ok k) :
    k.children ≠ .empty := by
  obtain ⟨entries, value, items, -, -, -, -, hne, hcontents, -⟩ := category_eq_ok_iff.1 hk
  intro hempty
  have hlength := length_toList_of_children hcontents
  rw [hempty] at hlength
  exact hne (List.length_eq_zero_iff.1 hlength.symm)

end Decode

/-- A visit is that of a part of the document, from which the child is decoded, with the names
of the categories around it. -/
structure Visit.Reads (d : Document) (visit : Visit) : Prop where
  part : ∃ v, d.Part visit.child.noun visit.place v ∧ visit.child.DecodedFrom visit.place v
  around : d.Surrounds visit.trail visit.place

/-- Where the children of some contents are decoded from parts of the document, with the names
of the categories around them, so is everything that is visited below. -/
theorem Contents.reads_of_mem_visits {trail : List String}
    (hparts : ∀ j child, contents.toList[j]? = some child →
      ∃ v, d.Part child.noun (place.item (i + j)) v ∧ child.DecodedFrom (place.item (i + j)) v)
    (haround : ∀ j, d.Surrounds trail (place.item j)) :
    ∀ visit ∈ contents.visits place trail i, visit.Reads d := by
  induction contents generalizing place trail i with
  | empty =>
    intro visit hvisit
    cases hvisit
  | script s rest ih =>
    refine List.forall_mem_cons.2 ⟨⟨hparts 0 _ rfl, haround i⟩, ih (fun j child hchild => ?_)
      haround⟩
    rw [Nat.add_assoc, Nat.add_comm 1 j]
    exact hparts (j + 1) child hchild
  | category name docs children rest ihChildren ihRest =>
    have hfirst := hparts 0 _ rfl
    obtain ⟨v, hpart, hdecoded⟩ := hfirst
    have hnamed : d.Named .category (place.item i) name :=
      ⟨v, hpart, Decode.fieldText?_of_category hdecoded⟩
    rw [visits, List.cons_append, List.forall_mem_cons, List.forall_mem_append]
    refine ⟨⟨⟨v, hpart, hdecoded⟩, haround i⟩, ihChildren (fun j child hchild => ?_)
      (fun j => (haround i).child hnamed "children" j), ihRest (fun j child hchild => ?_) haround⟩
    · obtain ⟨item, hlisted, hstands⟩ := Decode.exists_stands_of_category hdecoded hchild
      rw [Nat.zero_add]
      exact ⟨item, hstands.part hpart hlisted, hstands.decodedFrom⟩
    · rw [Nat.add_assoc, Nat.add_comm 1 j]
      exact hparts (j + 1) child hchild

end Decoded

/-! ## The visits of a collection -/

namespace Collection

/-- The categories at the top, as what stands in a category. -/
def contents (c : Collection) : Contents :=
  c.actions.foldr Contents.ofCategory .empty

/-- The visits to all categories and scripts, depth first. -/
def visits (c : Collection) : List Visit :=
  c.contents.visits (Location.key [] "actions") [] 0

/-- At the top of a collection stand its actions. -/
theorem toList_contents (c : Collection) : c.contents.toList = c.actions.map .category := by
  rw [contents]
  induction c.actions with
  | nil => rfl
  | cons k rest ih => rw [List.foldr_cons, Contents.ofCategory, Contents.toList, ih, List.map_cons]

/-- A walk through a collection is one through what stands at its top. -/
theorem walk_contents (c : Collection) : c.contents.walk [] = c.walk := by
  rw [contents, walk]
  induction c.actions with
  | nil => rfl
  | cons k rest ih =>
    rw [List.foldr_cons, Contents.ofCategory, Contents.walk, ih, List.flatMap_cons, Category.walk,
      List.nil_append]

/-- The categories of a collection are those at its top and below. -/
theorem allCategories_contents (c : Collection) : c.contents.allCategories = c.categories := by
  rw [contents, categories]
  induction c.actions with
  | nil => rfl
  | cons k rest ih =>
    rw [List.foldr_cons, Contents.ofCategory, Contents.allCategories, ih, List.flatMap_cons,
      Category.all]

variable {d : Document} {c : Collection}

/-- Every visit is that of a part of the document. -/
theorem reads_of_mem_visits (h : ofDocument d = .ok c) :
    ∀ visit ∈ c.visits, visit.Reads d := by
  obtain ⟨raw, items, hraw, hitems, hactions⟩ := exists_actions_of_ofDocument h
  refine Contents.reads_of_mem_visits (fun j child hchild => ?_)
    fun j => Document.surrounds_action "actions" j
  rw [toList_contents, List.getElem?_map, Option.map_eq_some_iff] at hchild
  obtain ⟨k, hk, rfl⟩ := hchild
  obtain ⟨item, hitem, hdecoded⟩ := Decode.exists_of_getElem?_each hactions hk
  rw [Nat.zero_add] at hdecoded ⊢
  exact ⟨item, .action ⟨raw, items, hraw, hitems, hitem⟩, hdecoded⟩

/-- Every category of the document is visited. -/
theorem exists_visit_of_category (h : ofDocument d = .ok c) {noun : Noun} {place : Location}
    {v : Document} (hpart : d.Part noun place v) :
    noun = .category → ∃ k trail, Decode.category place v = .ok k ∧
      ⟨place, trail, .category k⟩ ∈ c.visits := by
  obtain ⟨raw, items, hraw, hitems, hactions⟩ := exists_actions_of_ofDocument h
  induction hpart with
  | @action i w listed =>
    rintro -
    obtain ⟨value, others, hvalue, hothers, hitem⟩ := listed
    cases hraw.symm.trans hvalue
    cases hitems.symm.trans hothers
    obtain ⟨k, hk, hdecoded⟩ := Decode.exists_getElem?_of_each hactions hitem
    have hchild : c.contents.toList[i]? = some (.category k) := by
      rw [toList_contents, List.getElem?_map, hk]
      rfl
    have hvisit : ⟨(Location.key [] "actions").item (0 + i), [], .category k⟩ ∈ c.visits :=
      Contents.mem_visits_of_getElem? hchild
    rw [Nat.zero_add] at hdecoded hvisit
    exact ⟨k, [], hdecoded, hvisit⟩
  | @category base i w item within listed has_category no_name ih =>
    rintro -
    obtain ⟨k, trail, hk, hvisit⟩ := ih rfl
    obtain ⟨child, hchild, hstands⟩ := Decode.exists_child_of_listed hk listed
    cases hstands with
    | category _ _ decoded =>
      exact ⟨_, _, decoded, Contents.mem_visits_child hvisit hchild⟩
    | script _ no_category _ =>
      rw [no_category] at has_category
      cases has_category
  | _ =>
    intro hnoun
    cases hnoun

/-- Every script of the document is visited. -/
theorem exists_visit_of_script (h : ofDocument d = .ok c) {place : Location} {v : Document}
    (hpart : d.Part .script place v) :
    ∃ s trail, Decode.script place v = .ok s ∧ ⟨place, trail, .script s⟩ ∈ c.visits := by
  cases hpart with
  | script within listed has_name no_category =>
    obtain ⟨k, trail, hk, hvisit⟩ := exists_visit_of_category h within rfl
    obtain ⟨child, hchild, hstands⟩ := Decode.exists_child_of_listed hk listed
    cases hstands with
    | script _ _ decoded =>
      exact ⟨_, _, decoded, Contents.mem_visits_child hvisit hchild⟩
    | category _ no_name _ =>
      rw [no_name] at has_name
      cases has_name

/-- What is read off the visits is read off the document in its order. -/
theorem inOrder_filterMap_visits {α : Type} {noun : Noun}
    {Reads : Location → Document → α → Prop} {f : Visit → Option α}
    (hreads : ∀ visit ∈ c.visits, ∀ a, f visit = some a →
      ∃ v, d.Part noun visit.place v ∧ Reads visit.place v a)
    (hparts : ∀ place v, d.Part noun place v →
      ∃ visit ∈ c.visits, visit.place = place ∧ ∃ a, f visit = some a) :
    d.InOrder noun Reads (c.visits.filterMap f) := by
  have hplaced : c.visits.filterMap f =
      (c.visits.filterMap fun visit => (f visit).map (Prod.mk visit.place)).map Prod.snd := by
    rw [List.map_filterMap]
    simp [Function.comp_def]
  rw [hplaced]
  refine Document.inOrder_of_placed ?_ (fun k hk => ?_) fun place v hpart => ?_
  · refine List.pairwise_filterMap.2 ((Contents.pairwise_visits _ _ _ _).imp ?_)
    rintro visit other hprecedes k hk l hl
    obtain ⟨a, -, rfl⟩ := Option.map_eq_some_iff.1 hk
    obtain ⟨b, -, rfl⟩ := Option.map_eq_some_iff.1 hl
    exact hprecedes
  · obtain ⟨visit, hvisit, hsome⟩ := List.mem_filterMap.1 hk
    obtain ⟨a, ha, rfl⟩ := Option.map_eq_some_iff.1 hsome
    exact hreads visit hvisit a ha
  · obtain ⟨visit, hvisit, rfl, a, ha⟩ := hparts place v hpart
    refine ⟨a, List.mem_filterMap.2 ⟨visit, hvisit, ?_⟩⟩
    rw [ha, Option.map_some]

/-- A walk visits the scripts of the document in its order, each with the names of the
categories around it. -/
theorem inOrder_walk (h : ofDocument d = .ok c) :
    d.InOrder .script (fun place v visit =>
      Decode.script place v = .ok visit.2 ∧ d.Surrounds visit.1 place) c.walk := by
  rw [← walk_contents, ← Contents.filterMap_scriptVisit?_visits _ (Location.key [] "actions") [] 0]
  refine inOrder_filterMap_visits (fun visit hvisit a ha => ?_) fun place v hpart => ?_
  · obtain ⟨⟨v, hpart, hdecoded⟩, haround⟩ := reads_of_mem_visits h visit hvisit
    obtain ⟨place, trail, child⟩ := visit
    cases child with
    | script s =>
      cases ha
      exact ⟨v, hpart, hdecoded, haround⟩
    | category k => cases ha
  · obtain ⟨s, trail, -, hvisit⟩ := exists_visit_of_script h hpart
    exact ⟨_, hvisit, rfl, _, rfl⟩

/-- The categories of a collection are those of the document, in its order. -/
theorem inOrder_categories (h : ofDocument d = .ok c) :
    d.InOrder .category (fun place v k => Decode.category place v = .ok k) c.categories := by
  rw [← allCategories_contents,
    ← Contents.filterMap_category?_visits _ (Location.key [] "actions") [] 0]
  refine inOrder_filterMap_visits (fun visit hvisit a ha => ?_) fun place v hpart => ?_
  · obtain ⟨⟨v, hpart, hdecoded⟩, -⟩ := reads_of_mem_visits h visit hvisit
    obtain ⟨place, trail, child⟩ := visit
    cases child with
    | script s => cases ha
    | category k =>
      cases ha
      exact ⟨v, hpart, hdecoded⟩
  · obtain ⟨k, trail, -, hvisit⟩ := exists_visit_of_category h hpart rfl
    exact ⟨_, hvisit, rfl, _, rfl⟩

end Collection

end Tweaks
