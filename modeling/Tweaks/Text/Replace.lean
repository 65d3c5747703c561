/-!
# Replacing

Every occurrence of one text in another replaced by a third, from left to right
and without looking at inserted text again.

Main results:

- `dropExpected?_append`, `eq_append_of_dropExpected?`: taking a text off the
  front of another.
- `replaceAll_cons_of_ne`, `replaceAll_append`: a character that cannot start an
  occurrence is copied, and an occurrence gives way to the new text.
-/

namespace Tweaks.Text

/-- What follows the expected text at the start of `s`, if it is there. -/
def dropExpected? : (expected s : List Char) → Option (List Char)
  | [], s => some s
  | _ :: _, [] => none
  | e :: expected, c :: s => if e = c then dropExpected? expected s else none

/-- What is left is shorter by the expected text. -/
theorem length_of_dropExpected? {expected s rest : List Char}
    (h : dropExpected? expected s = some rest) : s.length = expected.length + rest.length := by
  fun_induction dropExpected? expected s with
  | case1 s => simp_all
  | case2 => simp at h
  | case3 expected c s ih => have := ih h; simp; omega
  | case4 => simp at h

/-- The expected text comes off the front of a text that starts with it. -/
@[simp]
theorem dropExpected?_append (expected s : List Char) :
    dropExpected? expected (expected ++ s) = some s := by
  induction expected with
  | nil => rfl
  | cons e expected ih => simp [dropExpected?, ih]

/-- Only from a text that starts with it does the expected text come off. -/
theorem eq_append_of_dropExpected? {expected s rest : List Char}
    (h : dropExpected? expected s = some rest) : s = expected ++ rest := by
  fun_induction dropExpected? expected s with
  | case1 s => simp_all
  | case2 => simp at h
  | case3 expected c s ih => simp [ih h]
  | case4 => simp at h

/-- Whether a text occurs in another. -/
def occursIn (part : List Char) : List Char → Bool
  | [] => part.isEmpty
  | c :: s => part.isPrefixOf (c :: s) || occursIn part s

/-- Every occurrence of the text `e :: old` in `s` replaced by `new`. -/
def replaceAll (e : Char) (old new : List Char) : (s : List Char) → List Char
  | [] => []
  | c :: s =>
    match _h : dropExpected? (e :: old) (c :: s) with
    | some rest => new ++ replaceAll e old new rest
    | none => c :: replaceAll e old new s
termination_by s => s.length
decreasing_by
  · have := length_of_dropExpected? _h
    simp at this ⊢; omega
  · simp

/-- Every occurrence of `old` replaced by `new`; an empty `old` occurs nowhere. -/
def replace (old new s : List Char) : List Char :=
  match old with
  | [] => s
  | e :: old => replaceAll e old new s

/-- A character that cannot start an occurrence is copied. -/
theorem replaceAll_cons_of_ne {e c : Char} (old new s : List Char) (h : e ≠ c) :
    replaceAll e old new (c :: s) = c :: replaceAll e old new s := by
  rw [replaceAll]
  split
  · next rest hrest => simp [dropExpected?, h] at hrest
  · rfl

/-- An occurrence is replaced, and the text goes on behind it. -/
theorem replaceAll_append (e : Char) (old new s : List Char) :
    replaceAll e old new ((e :: old) ++ s) = new ++ replaceAll e old new s := by
  have h := dropExpected?_append (e :: old) s
  rw [List.cons_append] at h ⊢
  rw [replaceAll]
  split
  · next rest hrest =>
    rw [h] at hrest
    cases hrest
    rfl
  · next hnone => rw [h] at hnone; cases hnone

/-! ## Parts around an occurrence -/

/-- What stands before and behind the first occurrence of a text in another. -/
def splitAt? (part : List Char) : List Char → Option (List Char × List Char)
  | [] => (dropExpected? part []).map fun rest => ([], rest)
  | c :: s =>
    match dropExpected? part (c :: s) with
    | some rest => some ([], rest)
    | none => (splitAt? part s).map fun (before, rest) => (c :: before, rest)

/-- A text with another one before each character and at its end, as often as
allowed. -/
def interleave (new : List Char) : (limit : Nat) → List Char → List Char
  | 0, s => s
  | _ + 1, [] => new
  | limit + 1, c :: s => new ++ c :: interleave new limit s

/-- The first occurrences of `old` replaced by `new`, as many as allowed.  An empty
`old` occurs before each character and at the end. -/
def replaceFirst (old new : List Char) : (limit : Nat) → List Char → List Char
  | 0, s => s
  | limit + 1, s =>
    if old.isEmpty then interleave new (limit + 1) s
    else
      match splitAt? old s with
      | some (before, rest) => before ++ new ++ replaceFirst old new limit rest
      | none => s

/-- The pieces of a text between the occurrences of another; `limit` bounds their
number. -/
def splitOn (separator : List Char) : (limit : Nat) → List Char → List (List Char)
  | 0, s => [s]
  | limit + 1, s =>
    match splitAt? separator s with
    | some (before, rest) => before :: splitOn separator limit rest
    | none => [s]

end Tweaks.Text
