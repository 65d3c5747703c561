import Mathlib.Data.List.Infix
import Mathlib.Data.List.TakeWhile
import Tweaks.Pipe

/-!
# Scripts on one line

A line comment is meant to go from its hash sign to the end of its line, so that every line
leaves what stands before its first hash sign.  What is dropped is more at times: the blanks
behind a hash sign are skipped with the breaks among them, and a carriage return by itself
does not end a comment.  So a comment that says nothing on its own line takes the next line
with something on it.

For scripts without block comments, here-strings and continued lines the module tells what
is left: of the statements that the lines leave some are lost, as many as comments take from
other lines, and the others stay as they are and in their order.

Main results:

- `statements_line_comment`: what a comment takes, and what it leaves.
- `keeps_statements`: of the statements of a text, those that comments take are lost.
- `joinWith_injective_of_sublist`: fewer statements never give the same line.
- `inlines_lines_up_to_comments`: what a script on one line is, and when it is all that it
  should be; `empty_comment_takes_next_line` is a script of which too little is left.
-/

namespace Tweaks.Pipe

open Text

/-! ## Statements -/

/-- What a line leaves: what stands before its first hash sign, without blanks around it. -/
def statement (line : List Char) : List Char :=
  stripChars (line.takeWhile (· ≠ '#'))

/-- What lines leave, but for those that leave nothing. -/
def statementsOf (lines : List (List Char)) : List (List Char) :=
  (lines.map statement).filter fun line => !line.isEmpty

/-- What the lines of a text leave. -/
def statements (s : List Char) : List (List Char) :=
  statementsOf (splitLines s)

@[simp]
theorem statementsOf_append (lines lines' : List (List Char)) :
    statementsOf (lines ++ lines') = statementsOf lines ++ statementsOf lines' := by
  simp [statementsOf]

/-- The first line and the others. -/
theorem statementsOf_cons (line : List Char) (lines : List (List Char)) :
    statementsOf (line :: lines) = statementsOf [line] ++ statementsOf lines :=
  statementsOf_append [line] lines

/-- In a line without a hash sign every character stands before the first one. -/
theorem ne_hash_of_notMem {line : List Char} (h : '#' ∉ line) :
    ∀ c ∈ line, decide (c ≠ '#') = true := by
  intro c hc
  rw [decide_eq_true_eq]
  rintro rfl
  exact h hc

/-- A line without a hash sign leaves all but the blanks around it. -/
theorem statement_of_notMem {line : List Char} (h : '#' ∉ line) :
    statement line = stripChars line := by
  rw [statement, List.takeWhile_eq_self_iff.2 (ne_hash_of_notMem h)]

/-- What stands behind a hash sign on a line is not left. -/
theorem statement_append_hash {line : List Char} (h : '#' ∉ line) (rest : List Char) :
    statement (line ++ '#' :: rest) = statement line := by
  rw [statement_of_notMem h, statement, List.takeWhile_append_of_pos (ne_hash_of_notMem h),
    List.takeWhile_cons_of_neg (by simp), List.append_nil]

/-! ## Lines -/

/-- A text consists of characters that break no line. -/
def OnOneLine (s : List Char) : Prop :=
  ∀ c ∈ s, isBreak c = false

instance : DecidablePred OnOneLine :=
  List.decidableBAll fun c => isBreak c = false

/-- The empty text breaks no line. -/
theorem onOneLine_nil : OnOneLine [] := fun _ h => absurd h List.not_mem_nil

/-- A character that breaks no line belongs to the first one. -/
theorem splitLines_cons_of_not_break {c : Char} (hc : isBreak c = false) {s first : List Char}
    {rest : List (List Char)} (h : splitLines s = first :: rest) :
    splitLines (c :: s) = (c :: first) :: rest := by
  rw [splitLines]
  · rw [hc, h]
    rfl
  · rintro t rfl -
    exact absurd hc (by decide)

/-- What stands before the first break belongs to the first line. -/
theorem splitLines_append {line : List Char} (hline : OnOneLine line) {s first : List Char}
    {rest : List (List Char)} (h : splitLines s = first :: rest) :
    splitLines (line ++ s) = (line ++ first) :: rest := by
  induction line with
  | nil => exact h
  | cons c line ih =>
    have hc : isBreak c = false := hline c List.mem_cons_self
    have hrest : OnOneLine line := fun d hd => hline d (List.mem_cons_of_mem c hd)
    exact splitLines_cons_of_not_break hc (ih hrest)

/-- Before a break there is an empty line, and behind it there are all statements. -/
theorem exists_splitLines_break {c : Char} (hc : isBreak c = true) (s : List Char) :
    ∃ others, splitLines (c :: s) = [] :: others ∧ statementsOf others = statements s := by
  by_cases hpair : c = '\r' ∧ s.head? = some '\n'
  · obtain ⟨rfl, hhead⟩ := hpair
    cases s with
    | nil => cases hhead
    | cons d s =>
      cases hhead
      -- The line feed belongs to the break; by itself it would only end an empty line.
      refine ⟨splitLines s, rfl, ?_⟩
      rw [statements, splitLines]
      · rfl
      · simp
  · refine ⟨splitLines s, ?_, rfl⟩
    rw [splitLines]
    · rw [hc]
      rfl
    · rintro t rfl rfl
      exact hpair ⟨rfl, rfl⟩

/-- A line, a break and what follows leave what the line leaves and what follows leaves. -/
theorem statements_append_break {line : List Char} (hline : OnOneLine line) {c : Char}
    (hc : isBreak c = true) (s : List Char) :
    statements (line ++ c :: s) = statementsOf [line] ++ statements s := by
  obtain ⟨others, hothers, hleft⟩ := exists_splitLines_break hc s
  rw [statements, splitLines_append hline hothers, List.append_nil, statementsOf_cons, hleft]

/-- A line feed at the start only ends an empty line. -/
theorem statements_lineFeed (s : List Char) : statements ('\n' :: s) = statements s :=
  statements_append_break onOneLine_nil (by decide) s

/-- A text without breaks is one line. -/
theorem statements_of_onOneLine {line : List Char} (hline : OnOneLine line) :
    statements line = statementsOf [line] := by
  have hlines := splitLines_append hline (s := []) rfl
  rw [List.append_nil] at hlines
  rw [statements, hlines]

/-- A line feed behind a text changes nothing about its first line, and what the others leave
stands before what follows the line feed. -/
theorem exists_splitLines_lineFeed (s rest : List Char) : ∃ first others others',
    splitLines s = first :: others ∧ splitLines (s ++ '\n' :: rest) = first :: others' ∧
      statementsOf others' = statementsOf others ++ statements rest := by
  induction s with
  | nil =>
    have hbreak : isBreak '\n' = true := by decide
    obtain ⟨others, hothers, hleft⟩ := exists_splitLines_break hbreak rest
    exact ⟨[], [], others, rfl, hothers, hleft⟩
  | cons c s ih =>
    obtain ⟨first, others, others', hs, hrest, hleft⟩ := ih
    cases hc : isBreak c with
    | false =>
      exact ⟨c :: first, others, others', splitLines_cons_of_not_break hc hs,
        splitLines_cons_of_not_break hc hrest, hleft⟩
    | true =>
      obtain ⟨behind, hbehind, hkept⟩ := exists_splitLines_break hc s
      obtain ⟨behind', hbehind', hkept'⟩ := exists_splitLines_break hc (s ++ '\n' :: rest)
      refine ⟨[], behind, behind', hbehind, hbehind', ?_⟩
      rw [hkept, hkept', statements, statements, hs, hrest, statementsOf_cons, hleft,
        statementsOf_cons first others, List.append_assoc]

/-- The characters of lines are those of the text. -/
theorem mem_of_mem_splitLines {s line : List Char} (h : line ∈ splitLines s) {c : Char}
    (hc : c ∈ line) : c ∈ s := by
  fun_induction splitLines s generalizing line with
  | case1 =>
    rw [List.mem_singleton.1 h] at hc
    exact hc
  | case2 s ih =>
    rcases List.mem_cons.1 h with rfl | h
    · cases hc
    · exact List.mem_cons_of_mem _ (List.mem_cons_of_mem _ (ih h hc))
  | case3 d s _ hd ih =>
    rcases List.mem_cons.1 h with rfl | h
    · cases hc
    · exact List.mem_cons_of_mem _ (ih h hc)
  | case4 d s _ hd hs => exact absurd hs (splitLines_ne_nil s)
  | case5 d s _ hd first rest hs ih =>
    rcases List.mem_cons.1 h with rfl | h
    · rcases List.mem_cons.1 hc with rfl | hc
      · exact List.mem_cons_self
      · exact List.mem_cons_of_mem _ (ih (hs ▸ List.mem_cons_self) hc)
    · exact List.mem_cons_of_mem _ (ih (hs ▸ List.mem_cons_of_mem _ h) hc)

/-! ## Comments -/

/-- What a line comment takes of the text behind its hash sign: blanks, and what follows them
up to a line feed. -/
def commentText (s : List Char) : List Char :=
  s.takeWhile isBlank ++ (restOfLine (dropBlank s)).1

/-- The line comments of a text without block comments. -/
def comments : List Char → List (List Char)
  | [] => []
  | c :: s => if c = '#' then commentText s :: comments (afterLineComment s) else comments s
termination_by s => s.length
decreasing_by
  · have := length_afterLineComment_le s
    simp; omega
  · simp

/-- What a comment takes from other lines than its own. -/
def taken (comment : List Char) : List (List Char) :=
  statementsOf (splitLines comment).tail

/-- What the comments of a text take from other lines than their own. -/
def lost (s : List Char) : List (List Char) :=
  (comments s).flatMap taken

/-- Behind a hash sign there is what the comment takes, and then what follows it. -/
theorem commentText_append_afterLineComment (s : List Char) :
    commentText s ++ afterLineComment s = s := by
  rw [commentText, afterLineComment, restOfLine, List.append_assoc,
    List.takeWhile_append_dropWhile, dropBlank, List.takeWhile_append_dropWhile]

/-- A comment goes up to a line feed or up to the end. -/
theorem afterLineComment_eq (s : List Char) :
    afterLineComment s = [] ∨ ∃ rest, afterLineComment s = '\n' :: rest := by
  cases h : afterLineComment s with
  | nil => exact Or.inl rfl
  | cons c rest =>
    have hc : decide (c ≠ '\n') = false := by
      have hhead := List.head?_dropWhile_not (fun c : Char => decide (c ≠ '\n')) (dropBlank s)
      rw [show (dropBlank s).dropWhile (fun c : Char => decide (c ≠ '\n')) = c :: rest from h]
        at hhead
      exact hhead
    rw [decide_eq_false_iff_not, not_not] at hc
    exact Or.inr ⟨rest, by rw [hc]⟩

/-- What follows a comment leaves the same on the line before the comment as by itself. -/
theorem statements_append_after {line : List Char} (hline : OnOneLine line) {s : List Char}
    (hs : s = [] ∨ ∃ rest, s = '\n' :: rest) :
    statements (line ++ s) = statementsOf [line] ++ statements s := by
  rcases hs with rfl | ⟨rest, rfl⟩
  · rw [List.append_nil, statements_of_onOneLine hline]
    exact (List.append_nil _).symm
  · rw [statements_append_break hline (by decide) rest, statements_lineFeed]

/-- The lines of a text with a comment leave what stands before the comment, what the comment
takes from other lines, and what follows it. -/
theorem statements_line_comment {line : List Char} (hline : OnOneLine line) (hhash : '#' ∉ line)
    (s : List Char) :
    statements (line ++ '#' :: s) =
      statementsOf [line] ++ (taken (commentText s) ++ statements (afterLineComment s)) := by
  have hsign : OnOneLine (line ++ ['#']) := by
    intro c hc
    rcases List.mem_append.1 hc with hc | hc
    · exact hline c hc
    · rw [List.mem_singleton.1 hc]
      decide
  have hcut : ∀ first : List Char, statementsOf [line ++ ['#'] ++ first] = statementsOf [line] := by
    intro first
    rw [List.append_assoc, statementsOf, List.map_singleton, List.singleton_append,
      statement_append_hash hhash first, statementsOf, List.map_singleton]
  have hwhole : line ++ '#' :: s = (line ++ ['#']) ++ (commentText s ++ afterLineComment s) := by
    rw [commentText_append_afterLineComment, List.append_assoc, List.singleton_append]
  rw [hwhole]
  rcases afterLineComment_eq s with hend | ⟨rest, hrest⟩
  · obtain ⟨first, others, hlines⟩ := List.exists_cons_of_ne_nil (splitLines_ne_nil (commentText s))
    rw [hend, List.append_nil, statements, splitLines_append hsign hlines, statementsOf_cons,
      hcut first, taken, hlines]
    exact congrArg (statementsOf [line] ++ ·) (List.append_nil _).symm
  · obtain ⟨first, others, others', hlines, hlines', hleft⟩ :=
      exists_splitLines_lineFeed (commentText s) rest
    rw [hrest, statements, splitLines_append hsign hlines', statementsOf_cons, hcut first, hleft,
      taken, hlines, List.tail_cons, statements_lineFeed]

/-! ## What comments leave -/

/-- What follows a comment is the end of the text. -/
theorem afterLineComment_suffix (s : List Char) : afterLineComment s <:+ s :=
  ⟨commentText s, commentText_append_afterLineComment s⟩

/-- A text holds no block comment. -/
def NoBlock (s : List Char) : Prop :=
  ¬ "<#".toList <:+: s

instance : DecidablePred NoBlock := fun s => inferInstanceAs (Decidable (¬ "<#".toList <:+: s))

/-- The end of a text without block comments has none either. -/
theorem NoBlock.of_suffix {s t : List Char} (h : NoBlock s) (ht : t <:+ s) : NoBlock t :=
  fun hblock => h (hblock.trans ht.isInfix)

/-- Without block comments, no text opens one. -/
theorem NoBlock.opens_none {c : Char} {s : List Char} (h : NoBlock (c :: s)) :
    (decide (c = '<') && decide (s.head? = some '#')) = false := by
  rw [Bool.and_eq_false_iff, decide_eq_false_iff_not, decide_eq_false_iff_not]
  by_contra hboth
  rw [not_or, not_not, not_not] at hboth
  obtain ⟨rfl, hhead⟩ := hboth
  obtain ⟨t, rfl⟩ := List.head?_eq_some_iff.1 hhead
  exact h ⟨[], t, rfl⟩

/-- A comment is dropped up to the line feed that ends it. -/
theorem dropComments_hash (s : List Char) :
    dropComments ('#' :: s) = dropComments (afterLineComment s) := by
  rw [dropComments, if_pos rfl]

/-- Without block comments, every other character stays. -/
theorem dropComments_cons {c : Char} {s : List Char} (h : NoBlock (c :: s)) (hc : c ≠ '#') :
    dropComments (c :: s) = c :: dropComments s := by
  rw [dropComments, if_neg hc, h.opens_none]
  rfl

/-- A property of texts without block comments holds if it holds of the empty text, at a
comment if it holds behind it, and at every other character if it holds behind that. -/
theorem noBlock_induction {motive : (s : List Char) → NoBlock s → Prop}
    (nil : ∀ h, motive [] h)
    (comment : ∀ s h hafter, motive (afterLineComment s) hafter → motive ('#' :: s) h)
    (other : ∀ c s h hrest, c ≠ '#' → motive s hrest → motive (c :: s) h)
    (s : List Char) (h : NoBlock s) : motive s h := by
  match s with
  | [] => exact nil h
  | c :: t =>
    by_cases hc : c = '#'
    · subst hc
      have hafter : NoBlock (afterLineComment t) :=
        h.of_suffix ((afterLineComment_suffix t).trans (List.suffix_cons '#' t))
      exact comment t h hafter (noBlock_induction nil comment other (afterLineComment t) hafter)
    · have hrest : NoBlock t := h.of_suffix (List.suffix_cons c t)
      exact other c t h hrest hc (noBlock_induction nil comment other t hrest)
termination_by s.length
decreasing_by
  · have := length_afterLineComment_le t
    simp; omega
  · simp

/-- Of the characters of a text without block comments, none of those that stay is a hash
sign. -/
theorem mem_of_mem_dropComments {s : List Char} (hblock : NoBlock s) {c : Char}
    (h : c ∈ dropComments s) : c ∈ s ∧ c ≠ '#' := by
  induction s, hblock using noBlock_induction with
  | nil _ =>
    rw [dropComments] at h
    cases h
  | comment s _ _ ih =>
    obtain ⟨hmem, hne⟩ := ih (dropComments_hash s ▸ h)
    exact ⟨List.mem_cons_of_mem _ ((afterLineComment_suffix s).subset hmem), hne⟩
  | other d s hblock _ hd ih =>
    rw [dropComments_cons hblock hd] at h
    rcases List.mem_cons.1 h with rfl | h
    · exact ⟨List.mem_cons_self, hd⟩
    · exact ⟨List.mem_cons_of_mem _ (ih h).1, (ih h).2⟩

/-- What is left of a text of which a list of statements is lost: the other statements, as they
are and in their order. -/
structure Keeps (all lost kept : List (List Char)) : Prop where
  /-- The statements that are kept stay in their order. -/
  sublist : kept.Sublist all
  /-- Every statement is kept or lost. -/
  perm : all.Perm (kept ++ lost)

/-- Statements before those of which some are lost are kept. -/
theorem Keeps.append_left {all lost kept : List (List Char)} (h : Keeps all lost kept)
    (before : List (List Char)) : Keeps (before ++ all) lost (before ++ kept) where
  sublist := h.sublist.append_left before
  perm := by
    rw [List.append_assoc]
    exact h.perm.append_left before

/-- More statements are lost before others. -/
theorem Keeps.lose {all lost kept : List (List Char)} (h : Keeps all lost kept)
    (more : List (List Char)) : Keeps (more ++ all) (more ++ lost) kept where
  sublist := h.sublist.trans (List.sublist_append_right more all)
  perm := (h.perm.append_left more).trans (by
    rw [← List.append_assoc, ← List.append_assoc]
    exact List.perm_append_comm.append_right lost)

/-- Without block comments, the lines of a text leave what they should, but for what comments
take from other lines than their own. -/
theorem keeps_statements {s : List Char} (hblock : NoBlock s) {line : List Char}
    (hline : OnOneLine line) (hhash : '#' ∉ line) :
    Keeps (statements (line ++ s)) (lost s) (statements (line ++ dropComments s)) := by
  induction s, hblock using noBlock_induction generalizing line with
  | nil _ =>
    rw [dropComments, lost, comments]
    exact ⟨List.Sublist.refl _, by simp⟩
  | comment s _ hafter ih =>
    have hlost : lost ('#' :: s) = taken (commentText s) ++ lost (afterLineComment s) := by
      rw [lost, comments, if_pos rfl, List.flatMap_cons, lost]
    have hends : dropComments (afterLineComment s) = [] ∨
        ∃ rest, dropComments (afterLineComment s) = '\n' :: rest := by
      rcases afterLineComment_eq s with hs | ⟨rest, hs⟩
      · rw [hs, dropComments]
        exact Or.inl rfl
      · rw [hs] at hafter ⊢
        exact Or.inr ⟨dropComments rest, dropComments_cons hafter (by decide)⟩
    have hkept := ih onOneLine_nil List.not_mem_nil
    rw [dropComments_hash, statements_append_after hline hends,
      statements_line_comment hline hhash, hlost]
    exact (hkept.lose _).append_left _
  | other c s hblock _ hc ih =>
    have hlost : lost (c :: s) = lost s := by
      rw [lost, comments, if_neg hc, lost]
    rw [dropComments_cons hblock hc, hlost]
    cases hbreak : isBreak c with
    | true =>
      rw [statements_append_break hline hbreak, statements_append_break hline hbreak]
      exact (ih onOneLine_nil List.not_mem_nil).append_left _
    | false =>
      have hlonger : OnOneLine (line ++ [c]) := by
        intro d hd
        rcases List.mem_append.1 hd with hd | hd
        · exact hline d hd
        · rw [List.mem_singleton.1 hd]
          exact hbreak
      have hnone : '#' ∉ line ++ [c] := by
        rw [List.mem_append, List.mem_singleton, not_or]
        exact ⟨hhash, Ne.symm hc⟩
      have hkept := ih hlonger hnone
      rw [List.append_assoc, List.append_assoc] at hkept
      exact hkept

/-! ## One line -/

/-- Without an at sign there is no here-string. -/
theorem inlineHereStrings_of_notMem {s : List Char} (h : '@' ∉ s) : inlineHereStrings s = s := by
  induction s with
  | nil => exact inlineHereStrings.eq_def []
  | cons c s ih =>
    rw [List.mem_cons, not_or] at h
    have hnext : nextHereString? (c :: s) = none := by
      unfold nextHereString?
      split
      · next heq =>
        cases heq
        exact absurd rfl h.1
      · rfl
    rw [inlineHereStrings]
    split
    · next heq => rw [hnext] at heq; cases heq
    · exact congrArg (c :: ·) (ih h.2)

/-- Without a backtick no line is continued. -/
theorem joinContinued_of_notMem {s : List Char} (h : '\x60' ∉ s) : joinContinued s = s := by
  induction s with
  | nil => exact joinContinued.eq_def []
  | cons c s ih =>
    rw [List.mem_cons, not_or] at h
    have hnext : afterContinuation? (c :: s) = none := by
      unfold afterContinuation?
      split
      · next t heq =>
        cases heq
        split
        · next u hu =>
          have hmem : '\x60' ∈ s.dropWhile (· = ' ') := hu ▸ List.mem_cons_self
          exact absurd ((List.dropWhile_sublist _).subset hmem) h.2
        · rfl
      · rfl
    rw [joinContinued]
    split
    · next heq => rw [hnext] at heq; cases heq
    · exact congrArg (c :: ·) (ih h.2)

/-- The length of pieces with a separator behind each. -/
def width (separator : List Char) : List (List Char) → Nat
  | [] => 0
  | piece :: pieces => piece.length + separator.length + width separator pieces

/-- Fewer pieces are shorter, by the separator that goes with each and by what each says. -/
theorem eq_or_lt_of_sublist (separator : List Char) {kept all : List (List Char)}
    (h : kept.Sublist all) (hall : ∀ piece ∈ all, piece ≠ []) :
    kept = all ∨ width separator kept + separator.length < width separator all := by
  induction h with
  | slnil => exact Or.inl rfl
  | cons piece h ih =>
    have hpiece : 0 < piece.length := List.length_pos_iff.2 (hall piece List.mem_cons_self)
    right
    rw [width]
    rcases ih (fun p hp => hall p (List.mem_cons_of_mem piece hp)) with rfl | hlt <;> omega
  | cons_cons piece h ih =>
    rcases ih (fun p hp => hall p (List.mem_cons_of_mem piece hp)) with rfl | hlt
    · exact Or.inl rfl
    · right
      rw [width, width]
      omega

/-- Joined pieces have no separator behind the last one. -/
theorem length_joinWith (separator : List Char) (pieces : List (List Char)) :
    (joinWith separator pieces).length = width separator pieces - separator.length := by
  induction pieces with
  | nil => exact (Nat.zero_sub _).symm
  | cons piece rest ih =>
    cases rest with
    | nil =>
      rw [joinWith_singleton, width, width]
      omega
    | cons next others =>
      rw [width] at ih
      rw [joinWith_cons_cons, List.length_append, List.length_append, ih, width, width]
      omega

/-- Fewer pieces never give the same line. -/
theorem joinWith_injective_of_sublist {separator : List Char} {kept all : List (List Char)}
    (h : kept.Sublist all) (hall : ∀ piece ∈ all, piece ≠ [])
    (hjoin : joinWith separator kept = joinWith separator all) : kept = all := by
  have hlength := congrArg List.length hjoin
  rw [length_joinWith, length_joinWith] at hlength
  rcases eq_or_lt_of_sublist separator h hall with heq | hlt
  · exact heq
  · omega

/-- Every statement says something. -/
theorem ne_nil_of_mem_statements {s piece : List Char} (h : piece ∈ statements s) : piece ≠ [] := by
  have hkeep := (List.mem_filter.1 h).2
  rintro rfl
  cases hkeep

/-- Lines without hash signs are joined as the statements that they leave. -/
theorem joinStatements_of_notMem {s : List Char} (h : '#' ∉ s) :
    joinStatements s = joinWith "; ".toList (statements s) := by
  have hlines : (splitLines s).map stripChars = (splitLines s).map statement := by
    refine List.map_congr_left fun line hline => ?_
    exact (statement_of_notMem fun hhash => h (mem_of_mem_splitLines hline hhash)).symm
  rw [joinStatements, hlines, statements, statementsOf]

/-- What a script is on one line, for every text without block comments, at signs and
backticks: the statements that its lines leave, in their order and joined with semicolons, but
for those that comments take from other lines than their own.  It is all that it should be
exactly where no comment takes any. -/
theorem inlines_lines_up_to_comments (text : String) (hblock : NoBlock text.toList)
    (hat : '@' ∉ text.toList) (htick : '\x60' ∉ text.toList) :
    (∃ kept, Keeps (statements text.toList) (lost text.toList) kept ∧
      inlinePowerShell text = String.ofList (joinWith "; ".toList kept)) ∧
    (inlinePowerShell text = String.ofList (joinWith "; ".toList (statements text.toList)) ↔
      ∀ comment ∈ comments text.toList, taken comment = []) := by
  have hkeeps := keeps_statements hblock onOneLine_nil List.not_mem_nil
  rw [List.nil_append, List.nil_append] at hkeeps
  have hat' : '@' ∉ dropComments text.toList := fun h => hat (mem_of_mem_dropComments hblock h).1
  have htick' : '\x60' ∉ dropComments text.toList :=
    fun h => htick (mem_of_mem_dropComments hblock h).1
  have hhash' : '#' ∉ dropComments text.toList :=
    fun h => (mem_of_mem_dropComments hblock h).2 rfl
  have hinline : inlinePowerShell text =
      String.ofList (joinWith "; ".toList (statements (dropComments text.toList))) := by
    rw [inlinePowerShell, inlineChars, inlineHereStrings_of_notMem hat',
      joinContinued_of_notMem htick', joinStatements_of_notMem hhash']
  have hlost : lost text.toList = [] ↔ ∀ comment ∈ comments text.toList, taken comment = [] := by
    rw [lost, List.flatMap_eq_nil_iff]
  refine ⟨⟨_, hkeeps, hinline⟩, ?_⟩
  rw [← hlost, hinline, String.ofList_inj]
  constructor
  · intro hjoin
    have hall := joinWith_injective_of_sublist hkeeps.sublist
      (fun _ h => ne_nil_of_mem_statements h) hjoin
    have hcount := hkeeps.perm.length_eq
    rw [List.length_append, hall] at hcount
    exact List.length_eq_zero_iff.1 (by omega)
  · intro hnone
    have hperm := hkeeps.perm
    rw [hnone, List.append_nil] at hperm
    rw [hkeeps.sublist.eq_of_length hperm.length_eq.symm]

/-- A comment that says something takes nothing from the next line. -/
theorem comment_with_text_inlines :
    NoBlock "a # b\nc".toList ∧ '@' ∉ "a # b\nc".toList ∧ '\x60' ∉ "a # b\nc".toList ∧
      inlinePowerShell "a # b\nc" =
        String.ofList (joinWith "; ".toList (statements "a # b\nc".toList)) := by
  have hblock : NoBlock "a # b\nc".toList := by decide
  have hat : '@' ∉ "a # b\nc".toList := by decide
  have htick : '\x60' ∉ "a # b\nc".toList := by decide
  have htaken : ∀ comment ∈ comments "a # b\nc".toList, taken comment = [] := by decide +kernel
  exact ⟨hblock, hat, htick,
    (inlines_lines_up_to_comments "a # b\nc" hblock hat htick).2.2 htaken⟩

/-- A hash sign by itself takes the next line: of two statements one is left. -/
theorem empty_comment_takes_next_line :
    NoBlock "a\n#\nb".toList ∧ '@' ∉ "a\n#\nb".toList ∧ '\x60' ∉ "a\n#\nb".toList ∧
      inlinePowerShell "a\n#\nb" ≠
        String.ofList (joinWith "; ".toList (statements "a\n#\nb".toList)) := by
  decide +kernel

end Tweaks.Pipe
