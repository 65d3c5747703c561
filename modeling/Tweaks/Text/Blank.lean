/-!
# Blank characters

The blank characters of Unicode (the white-space and separator characters that
count as space in a text), and the operations that depend on them: removing
blanks from both ends of a text and cutting a text into words.

Main results:

- `strip_of_all_blank`, `dropBlank_cons_of_not_blank`: what removal does to a
  text of blanks and to a text that starts with another character.
-/

namespace Tweaks.Text

/-- The blank characters: the ASCII controls from tab to carriage return and
from file to unit separator, next line, and the space separators, line and
paragraph separator of Unicode. -/
def isBlank (c : Char) : Bool :=
  let n := c.toNat
  (0x09 ≤ n && n ≤ 0x0d) || (0x1c ≤ n && n ≤ 0x20) || n = 0x85 || n = 0xa0 ||
    n = 0x1680 || (0x2000 ≤ n && n ≤ 0x200a) || n = 0x2028 || n = 0x2029 ||
    n = 0x202f || n = 0x205f || n = 0x3000

/-- The text without the blanks it starts with. -/
def dropBlank (s : List Char) : List Char :=
  s.dropWhile isBlank

/-- The text without the blanks it starts and ends with. -/
def stripChars (s : List Char) : List Char :=
  (dropBlank (dropBlank s).reverse).reverse

/-- The text without the blanks it starts and ends with. -/
def strip (s : String) : String :=
  String.ofList (stripChars s.toList)

/-- Whether a text is empty or holds nothing but blanks. -/
def isBlankText (s : String) : Bool :=
  s.toList.all isBlank

/-- The first word of a text: what precedes its first blank, once leading
blanks are dropped. -/
def firstWord (s : List Char) : List Char :=
  (dropBlank s).takeWhile (fun c => !isBlank c)

@[simp]
theorem dropBlank_nil : dropBlank [] = [] := rfl

/-- A text that starts with another character keeps all of it. -/
theorem dropBlank_cons_of_not_blank {c : Char} {s : List Char} (h : isBlank c = false) :
    dropBlank (c :: s) = c :: s := by
  simp [dropBlank, h]

/-- A blank at the start is dropped. -/
theorem dropBlank_cons_of_blank {c : Char} {s : List Char} (h : isBlank c = true) :
    dropBlank (c :: s) = dropBlank s := by
  simp [dropBlank, h]

/-- Nothing is left of a text of blanks. -/
theorem dropBlank_of_all_blank {s : List Char} (h : ∀ c ∈ s, isBlank c = true) :
    dropBlank s = [] := by
  induction s with
  | nil => rfl
  | cons c s ih =>
    rw [dropBlank_cons_of_blank (h c (by simp))]
    exact ih fun d hd => h d (by simp [hd])

/-- Nothing is left of a text of blanks. -/
theorem strip_of_all_blank {s : List Char} (h : ∀ c ∈ s, isBlank c = true) :
    stripChars s = [] := by
  simp [stripChars, dropBlank_of_all_blank h]

/-- Dropping blanks never makes a text longer. -/
theorem length_dropBlank_le (s : List Char) : (dropBlank s).length ≤ s.length :=
  (List.dropWhile_sublist _).length_le

end Tweaks.Text
