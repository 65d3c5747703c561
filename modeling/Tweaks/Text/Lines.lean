/-!
# Lines

Line breaks as scripts have them: a carriage return, a line feed, or the two in
this order.  The module trims breaks from both ends of a text, cuts a text into
lines, and joins lines again.

Main results:

- `splitLines_ne_nil`: every text has at least one line.
- `not_isBreak_of_mem_splitLines`: no line holds a break.
- `joinWith_append`, `join_append`: the pieces of two lists, joined at once or list by list.
-/

namespace Tweaks.Text

/-- The characters that break lines. -/
def isBreak (c : Char) : Bool :=
  c = '\r' || c = '\n'

/-- The text without the breaks it starts with. -/
def dropBreaks (s : List Char) : List Char :=
  s.dropWhile isBreak

/-- The text without the breaks it starts and ends with. -/
def trimBreaks (s : List Char) : List Char :=
  (dropBreaks (dropBreaks s).reverse).reverse

/-- The text without the breaks it starts and ends with. -/
def trim (s : String) : String :=
  String.ofList (trimBreaks s.toList)

/-- The lines of a text, without their breaks.  A carriage return with a line
feed behind it is one break. -/
def splitLines : List Char → List (List Char)
  | [] => [[]]
  | '\r' :: '\n' :: s => [] :: splitLines s
  | c :: s =>
    if isBreak c then [] :: splitLines s
    else match splitLines s with
      | [] => [[c]]
      | line :: lines => (c :: line) :: lines

/-- The pieces of a text between the characters of a kind. -/
def splitWhere (isEnd : Char → Bool) : List Char → List (List Char)
  | [] => [[]]
  | c :: s =>
    if isEnd c then [] :: splitWhere isEnd s
    else match splitWhere isEnd s with
      | [] => [[c]]
      | piece :: pieces => (c :: piece) :: pieces

/-- A text with every break as a line feed. -/
def unifyBreaks : List Char → List Char
  | [] => []
  | '\r' :: '\n' :: s => '\n' :: unifyBreaks s
  | c :: s => (if c = '\r' then '\n' else c) :: unifyBreaks s

/-- The lines that are read from a text one after the other.  Behind the last
break there is a line only if it holds something. -/
def readLines (s : List Char) : List (List Char) :=
  let lines := splitLines s
  if lines.getLast? = some [] then lines.dropLast else lines

/-- The given pieces in order, with a separator between each two. -/
def joinWith (separator : List Char) : List (List Char) → List Char
  | [] => []
  | [piece] => piece
  | piece :: pieces => piece ++ separator ++ joinWith separator pieces

/-- The given texts in order, with a separator between each two. -/
def join (separator : String) (pieces : List String) : String :=
  String.ofList (joinWith separator.toList (pieces.map String.toList))

/-- The empty text has nothing to lose. -/
theorem trim_empty : trim "" = "" := by
  simp [trim, trimBreaks, dropBreaks]

/-- Every text has at least one line. -/
theorem splitLines_ne_nil (s : List Char) : splitLines s ≠ [] := by
  fun_induction splitLines s <;> simp_all

/-- No line holds a break. -/
theorem not_isBreak_of_mem_splitLines {s line : List Char} (h : line ∈ splitLines s) :
    ∀ c ∈ line, isBreak c = false := by
  fun_induction splitLines s generalizing line with
  | case1 => simp_all
  | case2 s ih =>
    rcases List.mem_cons.1 h with rfl | h
    · simp
    · exact ih h
  | case3 c s _ hc ih =>
    rcases List.mem_cons.1 h with rfl | h
    · simp
    · exact ih h
  | case4 c s _ hc hs => simp_all
  | case5 c s _ hc first rest hs ih =>
    rcases List.mem_cons.1 h with rfl | h
    · intro d hd
      rcases List.mem_cons.1 hd with rfl | hd
      · simpa using hc
      · exact ih (by simp [hs]) d hd
    · exact ih (by simp [hs, h])

@[simp]
theorem joinWith_nil (separator : List Char) : joinWith separator [] = [] := rfl

@[simp]
theorem joinWith_singleton (separator piece : List Char) :
    joinWith separator [piece] = piece := rfl

/-- Two or more pieces: the first, the separator and the others. -/
theorem joinWith_cons_cons (separator piece next : List Char) (pieces : List (List Char)) :
    joinWith separator (piece :: next :: pieces) =
      piece ++ separator ++ joinWith separator (next :: pieces) := rfl

/-- A piece before others that there are. -/
theorem joinWith_cons_of_ne_nil (separator piece : List Char) {pieces : List (List Char)}
    (h : pieces ≠ []) :
    joinWith separator (piece :: pieces) = piece ++ separator ++ joinWith separator pieces := by
  cases pieces with
  | nil => exact absurd rfl h
  | cons next rest => exact joinWith_cons_cons separator piece next rest

/-- The characters of joined pieces are those of the pieces and of the separator. -/
theorem mem_joinWith {separator : List Char} {pieces : List (List Char)} {c : Char}
    (h : c ∈ joinWith separator pieces) : c ∈ separator ∨ ∃ piece ∈ pieces, c ∈ piece := by
  induction pieces with
  | nil => cases h
  | cons piece rest ih =>
    cases rest with
    | nil => exact .inr ⟨piece, List.mem_cons_self, h⟩
    | cons next others =>
      rw [joinWith_cons_cons, List.mem_append, List.mem_append] at h
      rcases h with (h | h) | h
      · exact .inr ⟨piece, List.mem_cons_self, h⟩
      · exact .inl h
      · rcases ih h with h | ⟨piece', hmem, hc⟩
        · exact .inl h
        · exact .inr ⟨piece', List.mem_cons_of_mem _ hmem, hc⟩

/-- The pieces of two lists, joined at once or list by list. -/
theorem joinWith_append (separator : List Char) {pieces others : List (List Char)}
    (h : pieces ≠ []) (h' : others ≠ []) :
    joinWith separator (pieces ++ others) =
      joinWith separator pieces ++ separator ++ joinWith separator others := by
  induction pieces with
  | nil => exact absurd rfl h
  | cons piece rest ih =>
    rw [List.cons_append]
    by_cases hr : rest = []
    · subst hr
      rw [List.nil_append, joinWith_cons_of_ne_nil separator piece h', joinWith_singleton]
    · rw [joinWith_cons_of_ne_nil separator piece (by simp [h']), ih hr,
        joinWith_cons_of_ne_nil separator piece hr]
      simp only [List.append_assoc]

/-- The texts of two lists, joined at once or list by list. -/
theorem join_append (separator : String) {texts others : List String} (h : texts ≠ [])
    (h' : others ≠ []) :
    join separator (texts ++ others) =
      join separator texts ++ separator ++ join separator others := by
  rw [join, List.map_append, joinWith_append _ (by simpa using h) (by simpa using h')]
  simp [join, String.append_assoc]

end Tweaks.Text
