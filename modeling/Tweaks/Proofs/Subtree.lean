import Mathlib.Data.List.Nodup
import Mathlib.Logic.Relation
import Tweaks.Collection

/-!
# Categories and what they contain

A category contains the scripts that stand in it or in a category below it.  A walk
through a collection does not ask for that: it takes the names of the categories it is
in along.  Where no script stands at two places, both come to the same.

Main results:

- `mem_allCategories_iff`, `mem_categories_iff`: the listed categories are those below
  the top.
- `mem_map_snd_walk_iff`: a walk visits exactly the scripts contained.
- `exists_category_of_mem_trail`, `exists_trail_of_category`: the names on the way to a
  script, and the categories that contain it.
- `mem_trail_iff`: in a collection without repeated scripts, the former are the names of
  the latter.
-/

namespace Tweaks

open Relation

/-- A category stands directly in another one. -/
def Category.IsChild (outer inner : Category) : Prop :=
  inner ∈ outer.categories

/-- A category is another one or stands below it, in any number of steps. -/
def Category.Below (outer inner : Category) : Prop :=
  ReflTransGen Category.IsChild outer inner

/-- A script stands in a category or below it. -/
def Category.Holds (k : Category) (s : Script) : Prop :=
  ∃ inner, k.Below inner ∧ s ∈ inner.scripts

/-- A category stands somewhere in a collection. -/
def Collection.HasCategory (c : Collection) (k : Category) : Prop :=
  ∃ top ∈ c.actions, top.Below k

/-- What stands below a category is itself, or stands below one of its children. -/
theorem Category.below_iff {outer inner : Category} :
    outer.Below inner ↔ inner = outer ∨ ∃ child ∈ outer.categories, child.Below inner := by
  rw [Below, ReflTransGen.cases_head_iff, eq_comm]
  rfl

/-- A category contains the scripts in it, and those that its children contain. -/
theorem Category.holds_iff {k : Category} {s : Script} :
    k.Holds s ↔ s ∈ k.scripts ∨ ∃ child ∈ k.categories, child.Holds s := by
  constructor
  · rintro ⟨inner, hbelow, hs⟩
    rcases below_iff.1 hbelow with rfl | ⟨child, hchild, hbelow⟩
    · exact .inl hs
    · exact .inr ⟨child, hchild, inner, hbelow, hs⟩
  · rintro (hs | ⟨child, hchild, inner, hbelow, hs⟩)
    · exact ⟨k, .refl, hs⟩
    · exact ⟨inner, .head hchild hbelow, hs⟩

namespace Contents

/-- The categories listed for some contents are those below the ones that stand there. -/
theorem mem_allCategories_iff {contents : Contents} {k : Category} :
    k ∈ contents.allCategories ↔ ∃ top ∈ contents.categories, top.Below k := by
  induction contents with
  | empty => simp [allCategories, categories]
  | script s rest ih => exact ih
  | category name docs children rest ihChildren ihRest =>
    rw [allCategories, categories, List.cons_append, List.mem_cons, List.mem_append, ihChildren,
      ihRest, List.exists_mem_cons_iff, Category.below_iff, or_assoc]
    rfl

/-- A walk visits exactly the scripts that stand there or are contained in a category
that does. -/
theorem mem_map_snd_walk_iff {contents : Contents} {trail : List String} {s : Script} :
    s ∈ (contents.walk trail).map Prod.snd ↔
      s ∈ contents.scripts ∨ ∃ k ∈ contents.categories, k.Holds s := by
  induction contents generalizing trail with
  | empty => simp [walk, scripts, categories]
  | script other rest ih =>
    rw [walk, scripts, categories, List.map_cons, List.mem_cons, List.mem_cons, ih, or_assoc]
  | category name docs children rest ihChildren ihRest =>
    rw [walk, scripts, categories, List.map_append, List.mem_append, ihChildren, ihRest,
      List.exists_mem_cons_iff, Category.holds_iff, or_left_comm]
    rfl

/-- A walk goes on from the names it was given. -/
theorem prefix_of_mem_walk {contents : Contents} {outer trail : List String} {s : Script}
    (h : (trail, s) ∈ contents.walk outer) : outer <+: trail := by
  induction contents generalizing outer with
  | empty => cases h
  | script other rest ih =>
    rcases List.mem_cons.1 h with h | h
    · cases h
      exact List.prefix_rfl
    · exact ih h
  | category name docs children rest ihChildren ihRest =>
    rcases List.mem_append.1 h with h | h
    · exact (List.prefix_append outer [name]).trans (ihChildren h)
    · exact ihRest h

/-- A name on the way to a script was given, or is that of a category on the way, which
contains the script. -/
theorem exists_category_of_mem_trail {contents : Contents} {outer trail : List String}
    {s : Script} (h : (trail, s) ∈ contents.walk outer) {name : String} (hname : name ∈ trail) :
    name ∈ outer ∨ ∃ k ∈ contents.allCategories, k.name = name ∧ k.Holds s := by
  induction contents generalizing outer with
  | empty => cases h
  | script other rest ih =>
    rcases List.mem_cons.1 h with h | h
    · cases h
      exact .inl hname
    · exact ih h
  | category own docs children rest ihChildren ihRest =>
    rcases List.mem_append.1 h with h | h
    · have hholds : Category.Holds ⟨own, docs, children⟩ s :=
        Category.holds_iff.2 (mem_map_snd_walk_iff.1 (List.mem_map_of_mem h))
      rcases ihChildren h with houter | ⟨k, hk, hkname, hks⟩
      · rcases List.mem_append.1 houter with houter | hown
        · exact .inl houter
        · refine .inr ⟨⟨own, docs, children⟩, List.mem_cons_self, ?_, hholds⟩
          exact (List.mem_singleton.1 hown).symm
      · exact .inr ⟨k, List.mem_cons_of_mem _ (List.mem_append_left _ hk), hkname, hks⟩
    · rcases ihRest h with houter | ⟨k, hk, hkname, hks⟩
      · exact .inl houter
      · exact .inr ⟨k, List.mem_cons_of_mem _ (List.mem_append_right _ hk), hkname, hks⟩

/-- A category that contains a script is gone through on a way to it. -/
theorem exists_trail_of_category {contents : Contents} {k : Category} {s : Script}
    (hk : k ∈ contents.allCategories) (hs : k.Holds s) (outer : List String) :
    ∃ trail, (trail, s) ∈ contents.walk outer ∧ k.name ∈ trail := by
  induction contents generalizing outer with
  | empty => cases hk
  | script other rest ih =>
    obtain ⟨trail, hwalk, hname⟩ := ih hk outer
    exact ⟨trail, List.mem_cons_of_mem _ hwalk, hname⟩
  | category own docs children rest ihChildren ihRest =>
    rw [allCategories, List.cons_append] at hk
    rcases List.mem_cons.1 hk with rfl | hk
    · -- Everything visited inside the category has its name on the way.
      have hvisit : s ∈ (children.walk (outer ++ [own])).map Prod.snd :=
        mem_map_snd_walk_iff.2 (Category.holds_iff.1 hs)
      obtain ⟨⟨trail, visited⟩, hwalk, rfl⟩ := List.mem_map.1 hvisit
      refine ⟨trail, List.mem_append_left _ hwalk, ?_⟩
      exact (prefix_of_mem_walk hwalk).subset (List.mem_append_right outer (by simp))
    · rcases List.mem_append.1 hk with hk | hk
      · obtain ⟨trail, hwalk, hname⟩ := ihChildren hk (outer ++ [own])
        exact ⟨trail, List.mem_append_left _ hwalk, hname⟩
      · obtain ⟨trail, hwalk, hname⟩ := ihRest hk outer
        exact ⟨trail, List.mem_append_right _ hwalk, hname⟩

end Contents

/-- The listed categories of a category are those below it. -/
theorem Category.mem_all_iff {k inner : Category} : inner ∈ k.all ↔ k.Below inner := by
  rw [all, List.mem_cons, Contents.mem_allCategories_iff, below_iff]
  rfl

namespace Collection

variable {c : Collection}

/-- The listed categories of a collection are those that stand somewhere in it. -/
theorem mem_categories_iff {k : Category} : k ∈ c.categories ↔ c.HasCategory k := by
  rw [categories, List.mem_flatMap, HasCategory]
  simp only [Category.mem_all_iff]

/-- A name on the way to a script is that of a category that contains the script. -/
theorem exists_category_of_mem_trail {trail : List String} {s : Script}
    (h : (trail, s) ∈ c.walk) {name : String} (hname : name ∈ trail) :
    ∃ k, c.HasCategory k ∧ k.name = name ∧ k.Holds s := by
  obtain ⟨top, htop, hwalk⟩ := List.mem_flatMap.1 h
  rw [Category.walk] at hwalk
  rcases Contents.exists_category_of_mem_trail hwalk hname with hown | ⟨k, hk, hkname, hks⟩
  · refine ⟨top, ⟨top, htop, .refl⟩, (List.mem_singleton.1 hown).symm, ?_⟩
    exact Category.holds_iff.2 (Contents.mem_map_snd_walk_iff.1 (List.mem_map_of_mem hwalk))
  · exact ⟨k, ⟨top, htop, Category.mem_all_iff.1 (List.mem_cons_of_mem top hk)⟩, hkname, hks⟩

/-- A category that contains a script is gone through on a way to it. -/
theorem exists_trail_of_category {k : Category} {s : Script} (hk : c.HasCategory k)
    (hs : k.Holds s) : ∃ trail, (trail, s) ∈ c.walk ∧ k.name ∈ trail := by
  obtain ⟨top, htop, hbelow⟩ := hk
  rcases List.mem_cons.1 (Category.mem_all_iff.2 hbelow) with rfl | hbelow
  · have hvisit : s ∈ k.walk.map Prod.snd :=
      Contents.mem_map_snd_walk_iff.2 (Category.holds_iff.1 hs)
    obtain ⟨⟨trail, visited⟩, hwalk, rfl⟩ := List.mem_map.1 hvisit
    refine ⟨trail, List.mem_flatMap.2 ⟨k, htop, hwalk⟩, ?_⟩
    exact (Contents.prefix_of_mem_walk hwalk).subset (by simp)
  · obtain ⟨trail, hwalk, hname⟩ := Contents.exists_trail_of_category hbelow hs [top.name]
    exact ⟨trail, List.mem_flatMap.2 ⟨top, htop, hwalk⟩, hname⟩

/-- Where no two scripts have the same name, each is visited on one way. -/
theorem trail_unique (hnodup : (c.scripts.map Script.name).Nodup) {s : Script}
    {trail trail' : List String} (h : (trail, s) ∈ c.walk) (h' : (trail', s) ∈ c.walk) :
    trail = trail' := by
  have hscripts := List.Nodup.of_map Script.name hnodup
  have hsame := List.inj_on_of_nodup_map hscripts h h' rfl
  exact congrArg Prod.fst hsame

/-- Where no two scripts have the same name, the names on the way to a script are those
of the categories that contain it. -/
theorem mem_trail_iff (hnodup : (c.scripts.map Script.name).Nodup) {trail : List String}
    {s : Script} (h : (trail, s) ∈ c.walk) {name : String} :
    name ∈ trail ↔ ∃ k, c.HasCategory k ∧ k.name = name ∧ k.Holds s := by
  constructor
  · exact exists_category_of_mem_trail h
  · rintro ⟨k, hk, rfl, hs⟩
    obtain ⟨trail', h', hname⟩ := exists_trail_of_category hk hs
    rw [trail_unique hnodup h h']
    exact hname

end Collection

end Tweaks
