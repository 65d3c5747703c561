import Mathlib.Data.List.TakeWhile
import Tweaks.Console.Markup

/-!
# Words between tags

A word may be given a look by a tag before it and the end of the tag behind it.  Without
colours the word is left, in front of what follows; what follows is read as if it stood
alone.

Main results:

- `escapedTag?_tag`, `escapedTag?_cons_of_ne`: where a tag is read, and where none is.
- `pieces_tagged`: the pieces of a word between tags.
- `textOf_open`, `textOf_close`: a tag is open from its place to its end.
- `plain_tagged`: the text of a word between tags, and of what follows it.
-/

namespace Tweaks.Console.Markup

/-! ## Pieces -/

/-- What stands before and behind the first of a character. -/
theorem splitAt?_of_notMem {d : Char} {s : List Char} (h : d ∉ s) (rest : List Char) :
    splitAt? (· = d) (s ++ d :: rest) = some (s, rest) := by
  induction s with
  | nil => simp [splitAt?]
  | cons c s ih =>
    rw [List.mem_cons, not_or] at h
    obtain ⟨hc, hs⟩ := h
    rw [List.cons_append, splitAt?, ih hs]
    simp [Ne.symm hc]

/-- A tag is read where there is one. -/
theorem escapedTag?_tag {c : Char} {name : List Char} (hstart : startsTag c = true)
    (hopen : '[' ∉ name) (hclose : ']' ∉ name) (rest : List Char) :
    escapedTag? ('[' :: c :: (name ++ ']' :: rest)) = some (0, c :: name, rest) := by
  have hnone : backslashes ('[' :: c :: (name ++ ']' :: rest)) = 0 := by simp [backslashes]
  rw [escapedTag?, hnone, List.drop_zero, tag?, splitAt?_of_notMem hclose]
  simp [hstart, hopen]

/-- Other characters are no tags. -/
theorem escapedTag?_cons_of_ne {c : Char} (hopen : c ≠ '[') (hescape : c ≠ '\\') (s : List Char) :
    escapedTag? (c :: s) = none := by
  have hnone : backslashes (c :: s) = 0 := by simp [backslashes, hescape]
  rw [escapedTag?, hnone, List.drop_zero, Option.map_eq_none_iff, tag?]
  rintro d t h
  cases h
  exact hopen rfl

/-- A tag is a piece of its own, behind what was read before it. -/
theorem pieces_of_tag {read s name rest : List Char} (h : escapedTag? s = some (0, name, rest)) :
    pieces read s = .text read.reverse :: .text [] :: .tag name :: pieces [] rest := by
  rw [pieces]
  split
  · next n name' rest' h' =>
    rw [h] at h'
    cases h'
    rfl
  · next h' =>
    rw [h] at h'
    cases h'

/-- A word without brackets and backslashes is read as it is. -/
theorem pieces_append_of_plain {word : List Char} (hopen : '[' ∉ word) (hescape : '\\' ∉ word)
    (read s : List Char) : pieces read (word ++ s) = pieces (word.reverse ++ read) s := by
  induction word generalizing read with
  | nil => rfl
  | cons c word ih =>
    rw [List.mem_cons, not_or] at hopen hescape
    obtain ⟨hc, hopen⟩ := hopen
    obtain ⟨hc', hescape⟩ := hescape
    have hnone := escapedTag?_cons_of_ne (Ne.symm hc) (Ne.symm hc') (word ++ s)
    rw [List.cons_append, pieces]
    split
    · next h =>
      rw [hnone] at h
      cases h
    · dsimp only
      rw [ih hopen hescape]
      simp

/-- A word between a tag and the end of it. -/
def tagged (name word : List Char) : List Char :=
  '[' :: (name ++ ']' :: (word ++ '[' :: '/' :: (name ++ [']'])))

/-- The pieces of a word between a tag and the end of it, before another text. -/
theorem pieces_tagged {c : Char} {name word : List Char} (hstart : startsTag c = true)
    (hopen : '[' ∉ c :: name) (hclose : ']' ∉ c :: name) (hword : '[' ∉ word)
    (hescape : '\\' ∉ word) (s : List Char) :
    pieces [] (tagged (c :: name) word ++ s) =
      .text [] :: .text [] :: .tag (c :: name) ::
        .text word :: .text [] :: .tag ('/' :: c :: name) :: pieces [] s := by
  have hbegun := escapedTag?_tag hstart (mt (List.mem_cons_of_mem c) hopen)
    (mt (List.mem_cons_of_mem c) hclose) (word ++ '[' :: '/' :: (c :: name ++ ']' :: s))
  have hended := escapedTag?_tag (by decide : startsTag '/' = true) hopen hclose s
  have hwhole : tagged (c :: name) word ++ s =
      '[' :: c :: (name ++ ']' :: (word ++ '[' :: '/' :: (c :: name ++ ']' :: s))) := by
    simp [tagged]
  rw [hwhole, pieces_of_tag hbegun, pieces_append_of_plain hword hescape, pieces_of_tag hended]
  simp

/-! ## Texts -/

/-- A part of the text without brackets and colons is shown as it is. -/
theorem shown_of_no_mark {s : List Char} (h : '[' ∉ s) (h' : ':' ∉ s) : shown s = s := by
  rw [shown, replace_of_no_bracket h, Emoji.replace_of_no_colon h']

/-- A name without an equals sign is the whole of a tag. -/
theorem takeWhile_ne_equals {name : List Char} (h : '=' ∉ name) :
    name.takeWhile (· ≠ '=') = name := by
  rw [List.takeWhile_eq_self_iff]
  intro d hd
  rw [decide_eq_true_eq]
  rintro rfl
  exact h hd

section Tagged

variable {c : Char} {name : List Char} {opened : List Opened} {rest : List Piece}

/-- A tag is open from its place on. -/
theorem textOf_open (hslash : c ≠ '/') (hequals : '=' ∉ c :: name)
    (hnormal : normalName (c :: name) = .ok (c :: name)) :
    textOf opened (.tag (c :: name) :: rest) = textOf (⟨c :: name, none⟩ :: opened) rest := by
  rw [textOf, takeWhile_ne_equals hequals]
  dsimp only
  split
  · next h =>
    cases h
    exact absurd rfl hslash
  · rw [hnormal]
    simp only [List.contains_eq_mem, hequals, decide_false]
    rfl

/-- The last open tag is ended by its name. -/
theorem textOf_close (hequals : '=' ∉ c :: name)
    (hnormal : normalName (c :: name) = .ok (c :: name))
    (hstrip : Text.stripChars (c :: name) = c :: name) :
    textOf (⟨c :: name, none⟩ :: opened) (.tag ('/' :: c :: name) :: rest) =
      (textOf opened rest).map fun (t, tags) => (t, ⟨c :: name, none⟩ :: tags) := by
  have hequals' : '=' ∉ '/' :: c :: name := by
    rw [List.mem_cons, not_or]
    exact ⟨by decide, hequals⟩
  have hcheck : Opened.check ⟨c :: name, none⟩ = .ok () := by simp [Opened.check]
  have hclose : close (c :: name) (⟨c :: name, none⟩ :: opened) =
      .ok (⟨c :: name, none⟩, opened) := by
    rw [close, hnormal]
    simp [bind, Except.bind, pure, Except.pure]
  rw [textOf, takeWhile_ne_equals hequals']
  dsimp only
  split
  · next h =>
    cases h
    rw [hstrip, hclose]
    dsimp only [bind, Except.bind]
    rw [hcheck]
  · next h => exact absurd rfl (h _)

end Tagged

/-- A word between a tag and the end of it stands before what follows, as it is. -/
theorem plain_tagged {c : Char} {name word : List Char} (hstart : startsTag c = true)
    (hslash : c ≠ '/') (hname : ∀ d ∈ "[]=".toList, d ∉ c :: name)
    (hword : ∀ d ∈ "[\\:".toList, d ∉ word)
    (hnormal : normalName (c :: name) = .ok (c :: name))
    (hstrip : Text.stripChars (c :: name) = c :: name) (s : List Char) :
    plain (tagged (c :: name) word ++ s) = (plain s).map (word ++ ·) := by
  have hequals := hname '=' (by simp)
  have hshown := shown_of_no_mark (hword '[' (by simp)) (hword ':' (by simp))
  have hnone := shown_of_no_mark (s := []) (by simp) (by simp)
  have htext : ∀ rest, textOf [] (.text [] :: .text [] :: .tag (c :: name) ::
      .text word :: .text [] :: .tag ('/' :: c :: name) :: rest) =
        (textOf [] rest).map fun (t, tags) => (word ++ t, ⟨c :: name, none⟩ :: tags) := by
    intro rest
    rw [textOf, textOf, textOf_open hslash hequals hnormal, textOf, textOf,
      textOf_close hequals hnormal hstrip, hshown, hnone]
    cases textOf [] rest <;> rfl
  have hpieces := pieces_tagged hstart (hname '[' (by simp)) (hname ']' (by simp))
    (hword '[' (by simp)) (hword '\\' (by simp)) s
  rw [plain, hpieces, htext, plain]
  cases textOf [] (pieces [] s) with
  | error fault => rfl
  | ok result =>
    have hfaulty : Opened.isFaulty ⟨c :: name, none⟩ = false := rfl
    simp only [Except.map, List.any_cons, hfaulty, Bool.false_or]
    split <;> rfl

end Tweaks.Console.Markup
