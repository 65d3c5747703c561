/-!
# Sorted texts

Lists of texts in ascending order of their characters, each text once.

Main results:

- `mem_sortDistinct`: sorting keeps exactly the texts of the list.
- `pairwise_sortDistinct`: of two texts in the result the former one is less.
-/

namespace Tweaks.Text

/-- Puts a text into its place in a sorted list, unless it is there already. -/
def insertSorted (s : String) : List String → List String
  | [] => [s]
  | t :: ts =>
    if s < t then s :: t :: ts
    else if s = t then t :: ts
    else t :: insertSorted s ts

/-- The texts of a list in ascending order, each once. -/
def sortDistinct (texts : List String) : List String :=
  texts.foldr insertSorted []

/-- Putting a text into a list adds that text and no other. -/
theorem mem_insertSorted {s t : String} {texts : List String} :
    t ∈ insertSorted s texts ↔ t = s ∨ t ∈ texts := by
  induction texts with
  | nil => simp [insertSorted]
  | cons u texts ih =>
    rw [insertSorted]
    split
    · simp
    · split
      · next h => subst h; simp
      · simp [ih, or_left_comm]

/-- Sorting keeps exactly the texts of the list. -/
@[simp]
theorem mem_sortDistinct {s : String} {texts : List String} :
    s ∈ sortDistinct texts ↔ s ∈ texts := by
  induction texts with
  | nil => simp [sortDistinct]
  | cons t texts ih =>
    rw [sortDistinct, List.foldr_cons, mem_insertSorted, List.mem_cons, ← ih, sortDistinct]

/-- A sorted list stays sorted when a text is put into its place. -/
theorem pairwise_insertSorted {s : String} {texts : List String}
    (h : texts.Pairwise (· < ·)) : (insertSorted s texts).Pairwise (· < ·) := by
  induction texts with
  | nil => simp [insertSorted]
  | cons t texts ih =>
    obtain ⟨ht, hs⟩ := List.pairwise_cons.1 h
    rw [insertSorted]
    split
    · next hlt =>
      refine List.pairwise_cons.2 ⟨fun u hu => ?_, h⟩
      rcases List.mem_cons.1 hu with rfl | hu
      · exact hlt
      · exact String.lt_trans hlt (ht u hu)
    · next hlt =>
      split
      · exact h
      · next hne =>
        refine List.pairwise_cons.2 ⟨fun u hu => ?_, ih hs⟩
        rcases mem_insertSorted.1 hu with rfl | hu
        · by_cases hgt : t < u
          · exact hgt
          · exact absurd (String.le_antisymm (String.not_lt.1 hgt) (String.not_lt.1 hlt)) hne
        · exact ht u hu

/-- Of two texts in the result the former one is less. -/
theorem pairwise_sortDistinct (texts : List String) :
    (sortDistinct texts).Pairwise (· < ·) := by
  induction texts with
  | nil => simp [sortDistinct]
  | cons t texts ih => exact pairwise_insertSorted ih

end Tweaks.Text
