import Tweaks.Proofs.Inlining

/-!
# Here-strings on one line

A here-string goes from an at sign with a quote, through its lines, to the same with the quote
first.  On one line it is to become a string that holds all its lines.  But the content may start
behind any of the breaks among the blanks at its beginning, and of these places the last one
behind which there is something to hold is taken.  So of the lines at the beginning those that
are blank are lost.

Main results:

- `contentUpto?_enclosed`: where it starts, the content goes on to the end of the here-string.
- `hereString?_enclosed`: from which line on the content is held.
- `write_joinWith`: the lines of a content, as a string on one line.
- `inlines_here_strings_up_to_blank_lines`: what a here-string is on one line, and when no line
  of it is lost; `blank_first_line_is_lost` is one of which a line is.
-/

namespace Tweaks.Pipe

open Text

/-! ## Here-strings -/

/-- The two quotes. -/
def quotes : List Char :=
  ['\x27', '\x22']

/-- A quote is one of the two. -/
theorem eq_of_mem_quotes {mark : Char} (h : mark ∈ quotes) : mark = '\x27' ∨ mark = '\x22' := by
  simpa [quotes] using h

/-- Only quotes open a here-string. -/
theorem mem_quotes_of_ofMark? {mark : Char} {style : OneLineString}
    (h : OneLineString.ofMark? mark = some style) : mark ∈ quotes := by
  by_contra hnone
  simp only [quotes, List.mem_cons, List.not_mem_nil, or_false, not_or] at hnone
  rw [OneLineString.ofMark?, if_neg hnone.1, if_neg hnone.2] at h
  cases h

/-- The lines of a here-string with what ends it, in quotes of a kind. -/
def enclosed (mark : Char) (lines : List (List Char)) : List Char :=
  joinWith ['\n'] lines ++ ['\n', mark, '@']

/-- A here-string of some lines, in quotes of a kind. -/
def hereString (mark : Char) (lines : List (List Char)) : List Char :=
  '@' :: mark :: '\n' :: enclosed mark lines

/-- A line that can stand in a here-string: it does not end one. -/
structure IsHeld (line : List Char) : Prop where
  onOneLine : OnOneLine line
  notMem_hash : '#' ∉ line
  not_closing : ∀ mark ∈ quotes, ¬ [mark, '@'] <+: line

instance : DecidablePred IsHeld := fun line =>
  haveI := List.decidableBAll (fun mark => ¬ [mark, '@'] <+: line) quotes
  decidable_of_iff
    (OnOneLine line ∧ '#' ∉ line ∧ ∀ mark ∈ quotes, ¬ [mark, '@'] <+: line)
    ⟨fun h => ⟨h.1, h.2.1, h.2.2⟩, fun h => ⟨h.1, h.2, h.3⟩⟩

/-- A line with its quotes escaped. -/
def OneLineString.escape (style : OneLineString) (line : List Char) : List Char :=
  line.flatMap fun c => if c = style.mark then style.escaped else [c]

/-- Lines as one string: the quotes in them are escaped, and a separator stands for each break. -/
def OneLineString.quote (style : OneLineString) (lines : List (List Char)) : List Char :=
  style.mark :: joinWith style.separator (lines.map style.escape) ++ [style.mark]

/-- The lines that are held of those of a here-string.  A blank line at the beginning is lost
where others follow that are more than one empty line. -/
def held : List (List Char) → List (List Char)
  | [] => []
  | line :: rest =>
    if line.all isBlank ∧ rest ≠ [] ∧ rest ≠ [[]] then held rest else line :: rest

/-! ## The content -/

/-- A character that breaks no line does not start the end of a here-string. -/
theorem afterClose?_of_not_break {c : Char} (hc : isBreak c = false) (s : List Char) :
    afterClose? (c :: s) = none := by
  have hnone : afterBreak? (c :: s) = none := by
    unfold afterBreak?
    split
    · next heq => cases heq; exact absurd hc (by decide)
    · next heq => cases heq; exact absurd hc (by decide)
    · next heq => cases heq; exact absurd hc (by decide)
    · rfl
  rw [afterClose?, hnone]

/-- A character at which a here-string does not end is part of the content. -/
theorem contentUpto?_of_not_close {c : Char} {s : List Char} (h : afterClose? (c :: s) = none)
    (read : List Char) : contentUpto? read (c :: s) = contentUpto? (c :: read) s := by
  rw [contentUpto?, h]
  cases read.isEmpty <;> rfl

/-- A content that holds something ends where the here-string can. -/
theorem contentUpto?_of_close {c : Char} {s rest read : List Char} (hread : read ≠ [])
    (h : afterClose? (c :: s) = some rest) :
    contentUpto? read (c :: s) = some (read.reverse, rest) := by
  have hempty : read.isEmpty = false := by simpa using hread
  rw [contentUpto?, h, hempty]

/-- A line is read as a whole. -/
theorem contentUpto?_append {line : List Char} (hline : OnOneLine line) (read s : List Char) :
    contentUpto? read (line ++ s) = contentUpto? (line.reverse ++ read) s := by
  induction line generalizing read with
  | nil => rfl
  | cons c line ih =>
    have hc : isBreak c = false := hline c List.mem_cons_self
    have hrest : OnOneLine line := fun d hd => hline d (List.mem_cons_of_mem c hd)
    rw [List.cons_append, contentUpto?_of_not_close (afterClose?_of_not_break hc _), ih hrest,
      List.reverse_cons, List.append_assoc, List.singleton_append]

/-- A line feed does not end a here-string unless a quote and an at sign follow. -/
theorem afterClose?_lineFeed {s : List Char}
    (h : ∀ mark ∈ quotes, ¬ [mark, '@'] <+: s) :
    afterClose? ('\n' :: s) = none := by
  rw [afterClose?]
  split
  · next q rest heq =>
    cases heq
    split
    · next hq =>
      have hmark : q ∈ quotes := by simpa [quotes] using hq
      exact absurd ⟨rest, rfl⟩ (h q hmark)
    · rfl
  · rfl

/-- What does not end a here-string does not do so with a line feed behind it. -/
theorem not_closing_append {line : List Char}
    (h : ∀ mark ∈ quotes, ¬ [mark, '@'] <+: line) (s : List Char) :
    ∀ mark ∈ quotes, ¬ [mark, '@'] <+: line ++ '\n' :: s := by
  intro mark hmark hstarts
  match line with
  | [] =>
    obtain ⟨rfl, -⟩ := List.cons_prefix_cons.1 hstarts
    exact absurd hmark (by decide)
  | [c] =>
    have hat := (List.cons_prefix_cons.1 (List.cons_prefix_cons.1 hstarts).2).1
    exact absurd hat (by decide)
  | c :: d :: rest =>
    obtain ⟨hc, hstarts⟩ := List.cons_prefix_cons.1 hstarts
    obtain ⟨hd, -⟩ := List.cons_prefix_cons.1 hstarts
    exact h mark hmark ⟨rest, by rw [hc, hd]; rfl⟩

/-- The lines of a here-string, one of them before the others. -/
theorem enclosed_cons (mark : Char) (line : List Char) {rest : List (List Char)} (h : rest ≠ []) :
    enclosed mark (line :: rest) = line ++ '\n' :: enclosed mark rest := by
  rw [enclosed, joinWith_cons_of_ne_nil _ _ h, enclosed]
  simp only [List.append_assoc, List.cons_append, List.nil_append]

/-- One line of a here-string. -/
theorem enclosed_singleton (mark : Char) (line : List Char) :
    enclosed mark [line] = line ++ '\n' :: [mark, '@'] := rfl

/-- Behind the last line a here-string ends. -/
theorem afterClose?_end {mark : Char} (hmark : mark ∈ quotes) :
    afterClose? ('\n' :: [mark, '@']) = some [] := by
  rcases eq_of_mem_quotes hmark with rfl | rfl <;> rfl

/-- Where it starts, the content of a here-string goes on to the end, unless there is nothing
that it could hold. -/
theorem contentUpto?_enclosed {mark : Char} (hmark : mark ∈ quotes)
    {line : List Char} {rest : List (List Char)} (hlines : ∀ l ∈ line :: rest, IsHeld l)
    {read : List Char} (hread : line = [] → rest = [] → read ≠ []) :
    contentUpto? read (enclosed mark (line :: rest)) =
      some (read.reverse ++ joinWith ['\n'] (line :: rest), []) := by
  obtain ⟨hline, hrest⟩ := List.forall_mem_cons.1 hlines
  induction rest generalizing line read with
  | nil =>
    have hheld : line.reverse ++ read ≠ [] := by
      intro hnil
      obtain ⟨hnone, hnothing⟩ := List.append_eq_nil_iff.1 hnil
      exact hread (List.reverse_eq_nil_iff.1 hnone) rfl hnothing
    rw [enclosed_singleton, contentUpto?_append hline.onOneLine,
      contentUpto?_of_close hheld (afterClose?_end hmark), joinWith_singleton]
    simp
  | cons next others ih =>
    obtain ⟨hnext, hothers⟩ := List.forall_mem_cons.1 hrest
    -- No line starts with what ends a here-string.
    have hopen : afterClose? ('\n' :: enclosed mark (next :: others)) = none := by
      apply afterClose?_lineFeed
      cases others with
      | nil => exact not_closing_append hnext.not_closing _
      | cons line' rest' =>
        rw [enclosed_cons mark next (List.cons_ne_nil line' rest')]
        exact not_closing_append hnext.not_closing _
    rw [enclosed_cons mark line (List.cons_ne_nil next others),
      contentUpto?_append hline.onOneLine, contentUpto?_of_not_close hopen,
      ih hrest (fun _ _ => List.cons_ne_nil _ _) hnext hothers, joinWith_cons_cons]
    simp

/-! ## Where the content starts -/

/-- The first places at which a content may start, of those that there are. -/
theorem hereString?_lineFeed (s : List Char) :
    hereString? ('\n' :: s) = (hereString? s).or (contentUpto? [] s) := by
  have hstarts : contentStarts ('\n' :: s) = contentStarts s ++ [s] := rfl
  rw [hereString?, hstarts, List.findSome?_append, hereString?]
  cases (contentStarts s).findSome? (contentUpto? []) with
  | some found => rfl
  | none => simp

/-- Blanks that break no line are skipped. -/
theorem hereString?_append {blanks : List Char} (hblank : ∀ c ∈ blanks, isBlank c = true)
    (hline : OnOneLine blanks) (s : List Char) : hereString? (blanks ++ s) = hereString? s := by
  have hstarts : contentStarts (blanks ++ s) = contentStarts s := by
    induction blanks with
    | nil => rfl
    | cons c blanks ih =>
      rw [List.cons_append, contentStarts, if_pos (hblank c List.mem_cons_self),
        hline c List.mem_cons_self, ih (fun d hd => hblank d (List.mem_cons_of_mem c hd))
          (fun d hd => hline d (List.mem_cons_of_mem c hd))]
      exact List.append_nil _
  rw [hereString?, hstarts, hereString?]

/-- A line that is not blank has no place behind it at which the content may start. -/
theorem hereString?_of_not_blank {line : List Char} (hline : OnOneLine line)
    (hblank : ¬ ∀ c ∈ line, isBlank c = true) (s : List Char) : hereString? (line ++ s) = none := by
  have hstarts : contentStarts (line ++ s) = [] := by
    induction line with
    | nil => exact absurd (fun _ h => absurd h List.not_mem_nil) hblank
    | cons c line ih =>
      rw [List.cons_append, contentStarts, hline c List.mem_cons_self]
      split
      · next hc =>
        rw [ih (fun d hd => hline d (List.mem_cons_of_mem c hd))
          (fun hall => hblank (List.forall_mem_cons.2 ⟨hc, hall⟩))]
        rfl
      · rfl
  rw [hereString?, hstarts]
  rfl

/-- Behind the opening of a here-string without lines, or with an empty one, there is nothing to
hold. -/
theorem hereString?_nothing {mark : Char} (hmark : mark ∈ quotes) :
    hereString? ('\n' :: [mark, '@']) = none ∧ hereString? ('\n' :: enclosed mark [[]]) = none := by
  rcases eq_of_mem_quotes hmark with rfl | rfl <;> decide

/-- What a here-string holds: its lines, but for the blank ones that are lost. -/
theorem hereString?_enclosed {mark : Char} (hmark : mark ∈ quotes)
    {lines : List (List Char)} (hne : lines ≠ []) (hempty : lines ≠ [[]])
    (hlines : ∀ l ∈ lines, IsHeld l) :
    hereString? ('\n' :: enclosed mark lines) = some (joinWith ['\n'] (held lines), []) := by
  induction lines with
  | nil => exact absurd rfl hne
  | cons line rest ih =>
    have hline := hlines line List.mem_cons_self
    have hwhole : contentUpto? [] (enclosed mark (line :: rest)) =
        some (joinWith ['\n'] (line :: rest), []) := by
      refine contentUpto?_enclosed hmark hlines ?_
      rintro rfl rfl
      exact absurd rfl hempty
    rw [hereString?_lineFeed, hwhole, held]
    by_cases hblank : ∀ c ∈ line, isBlank c = true
    · have hall : line.all isBlank = true := List.all_eq_true.2 hblank
      cases rest with
      | nil =>
        rw [enclosed_singleton, hereString?_append hblank hline.onOneLine,
          (hereString?_nothing hmark).1, if_neg (by simp)]
        rfl
      | cons next others =>
        rw [enclosed_cons mark line (List.cons_ne_nil next others),
          hereString?_append hblank hline.onOneLine]
        by_cases hnext : next :: others = [[]]
        · rw [hnext, (hereString?_nothing hmark).2, if_neg (by simp)]
          rfl
        · rw [ih (List.cons_ne_nil next others) hnext fun l hl =>
            hlines l (List.mem_cons_of_mem line hl), if_pos ⟨hall, List.cons_ne_nil _ _, hnext⟩]
          rfl
    · have hnone : hereString? (enclosed mark (line :: rest)) = none := by
        cases rest with
        | nil => exact hereString?_of_not_blank hline.onOneLine hblank _
        | cons next others =>
          rw [enclosed_cons mark line (List.cons_ne_nil next others)]
          exact hereString?_of_not_blank hline.onOneLine hblank _
      rw [hnone, if_neg fun h => hblank (List.all_eq_true.1 h.1)]
      rfl

/-! ## Strings on one line -/

/-- What is needed of a kind of string so that it stays on one line. -/
structure OneLineString.Fits (style : OneLineString) : Prop where
  mark_not_break : isBreak style.mark = false
  mark_not_blank : isBlank style.mark = false
  onOneLine_escaped : OnOneLine style.escaped
  onOneLine_separator : OnOneLine style.separator
  separator_ne_nil : style.separator ≠ []

/-- Both kinds of strings stay on one line, in the quotes of the here-string. -/
theorem fits_of_ofMark? {mark : Char} {style : OneLineString}
    (h : OneLineString.ofMark? mark = some style) : style.Fits ∧ style.mark = mark := by
  rcases eq_of_mem_quotes (mem_quotes_of_ofMark? h) with rfl | rfl <;> cases h
  · exact ⟨⟨by decide, by decide, by decide, by decide, by decide⟩, rfl⟩
  · exact ⟨⟨by decide, by decide, by decide, by decide, by decide⟩, rfl⟩

/-- A single character is replaced wherever it stands. -/
theorem replace_singleton (e : Char) (new s : List Char) :
    replace [e] new s = s.flatMap fun c => if c = e then new else [c] := by
  change replaceAll e [] new s = _
  induction s with
  | nil => rw [replaceAll]; rfl
  | cons c s ih =>
    rw [List.flatMap_cons, ← ih]
    by_cases hc : c = e
    · rw [if_pos hc, hc]
      exact replaceAll_append e [] new s
    · rw [if_neg hc]
      exact replaceAll_cons_of_ne [] new s (Ne.symm hc)

/-- What is made of the characters of joined pieces is made of those of the pieces. -/
theorem flatMap_joinWith (f : Char → List Char) (separator : List Char)
    (pieces : List (List Char)) :
    (joinWith separator pieces).flatMap f =
      joinWith (separator.flatMap f) (pieces.map (List.flatMap f)) := by
  induction pieces with
  | nil => rfl
  | cons piece rest ih =>
    cases rest with
    | nil => rfl
    | cons next others =>
      rw [joinWith_cons_cons, List.flatMap_append, List.flatMap_append, ih]
      rfl

/-- Lines that line feeds join are the lines of the text. -/
theorem splitLines_joinWith {lines : List (List Char)} (hne : lines ≠ [])
    (hlines : ∀ line ∈ lines, OnOneLine line) : splitLines (joinWith ['\n'] lines) = lines := by
  induction lines with
  | nil => exact absurd rfl hne
  | cons line rest ih =>
    obtain ⟨hline, hrest⟩ := List.forall_mem_cons.1 hlines
    cases rest with
    | nil =>
      have hlast := splitLines_append hline (s := []) rfl
      rw [List.append_nil] at hlast
      exact hlast
    | cons next others =>
      have hbreak : splitLines ('\n' :: joinWith ['\n'] (next :: others)) =
          [] :: next :: others := by
        rw [splitLines, ih (List.cons_ne_nil next others) hrest]
        · rfl
        · simp
      rw [joinWith_cons_cons, List.append_assoc, List.singleton_append,
        splitLines_append hline hbreak, List.append_nil]

/-- What is on one line is so with its quotes escaped. -/
theorem OneLineString.Fits.onOneLine_escape {style : OneLineString} (h : style.Fits)
    {line : List Char} (hline : OnOneLine line) : OnOneLine (style.escape line) := by
  intro c hc
  obtain ⟨d, hd, hc⟩ := List.mem_flatMap.1 hc
  split at hc
  · exact h.onOneLine_escaped c hc
  · rw [List.mem_singleton.1 hc]
    exact hline d hd

/-- The content of a here-string is written as one string of its lines. -/
theorem write_joinWith {style : OneLineString} (h : style.Fits) {lines : List (List Char)}
    (hne : lines ≠ []) (hlines : ∀ line ∈ lines, OnOneLine line) :
    style.write (joinWith ['\n'] lines) = style.quote lines := by
  have hbreak : ['\n'].flatMap (fun c => if c = style.mark then style.escaped else [c]) =
      ['\n'] := by
    have hmark : '\n' ≠ style.mark := by
      intro heq
      have hnot := h.mark_not_break
      rw [← heq] at hnot
      exact absurd hnot (by decide)
    simp [hmark]
  have hescaped : replace [style.mark] style.escaped (joinWith ['\n'] lines) =
      joinWith ['\n'] (lines.map style.escape) := by
    rw [replace_singleton, flatMap_joinWith, hbreak]
    rfl
  have hsplit : splitLines (joinWith ['\n'] (lines.map style.escape)) = lines.map style.escape := by
    refine splitLines_joinWith (by simpa using hne) ?_
    intro line hline
    obtain ⟨line', hmem, rfl⟩ := List.mem_map.1 hline
    exact h.onOneLine_escape (hlines line' hmem)
  rw [OneLineString.write, hescaped, hsplit, OneLineString.quote]

/-- A string of lines is on one line. -/
theorem OneLineString.Fits.onOneLine_quote {style : OneLineString} (h : style.Fits)
    {lines : List (List Char)} (hlines : ∀ line ∈ lines, OnOneLine line) :
    OnOneLine (style.quote lines) := by
  intro c hc
  rw [OneLineString.quote, List.cons_append, List.mem_cons, List.mem_append,
    List.mem_singleton] at hc
  rcases hc with rfl | hc | rfl
  · exact h.mark_not_break
  · rcases mem_joinWith hc with hc | ⟨piece, hpiece, hc⟩
    · exact h.onOneLine_separator c hc
    · obtain ⟨line, hline, rfl⟩ := List.mem_map.1 hpiece
      exact h.onOneLine_escape (hlines line hline) c hc
  · exact h.mark_not_break

/-- What is on one line is continued nowhere. -/
theorem joinContinued_of_onOneLine {s : List Char} (h : OnOneLine s) : joinContinued s = s := by
  induction s with
  | nil => exact joinContinued.eq_def []
  | cons c s ih =>
    have hnext : afterContinuation? (c :: s) = none := by
      unfold afterContinuation?
      split
      · next t heq =>
        cases heq
        split
        · next u hu =>
          -- Behind the backtick there would have to be a break.
          refine if_neg ?_
          rw [List.any_eq_true]
          rintro ⟨d, hd, hbreak⟩
          have hmem : d ∈ s.dropWhile (· = ' ') := by
            rw [hu]
            exact List.mem_cons_of_mem _ ((List.takeWhile_sublist _).subset hd)
          have hd' := h d (List.mem_cons_of_mem _ ((List.dropWhile_sublist _).subset hmem))
          rw [hbreak] at hd'
          cases hd'
        · rfl
      · rfl
    rw [joinContinued]
    split
    · next heq => rw [hnext] at heq; cases heq
    · exact congrArg (c :: ·) (ih fun d hd => h d (List.mem_cons_of_mem c hd))

/-- What starts and ends with another character has no blanks around it. -/
theorem stripChars_of_quoted {mark : Char} (hmark : isBlank mark = false) (inside : List Char) :
    stripChars (mark :: inside ++ [mark]) = mark :: inside ++ [mark] := by
  rw [stripChars, List.cons_append, dropBlank_cons_of_not_blank hmark, List.reverse_cons,
    List.reverse_append, List.reverse_singleton, List.singleton_append, List.cons_append,
    dropBlank_cons_of_not_blank hmark]
  simp

/-- A string in quotes that is on one line is a statement by itself. -/
theorem joinStatements_of_quoted {mark : Char} (hmark : isBlank mark = false) {inside : List Char}
    (h : OnOneLine (mark :: inside ++ [mark])) :
    joinStatements (mark :: inside ++ [mark]) = mark :: inside ++ [mark] := by
  have hlines := splitLines_append h (s := []) rfl
  rw [List.append_nil] at hlines
  rw [joinStatements, hlines, List.map_singleton, stripChars_of_quoted hmark]
  rfl

/-! ## Lost lines -/

/-- What is held are the last lines, and those before it are blank. -/
theorem exists_append_held (lines : List (List Char)) :
    ∃ dropped, lines = dropped ++ held lines ∧ ∀ line ∈ dropped, line.all isBlank = true := by
  induction lines with
  | nil => exact ⟨[], rfl, by simp⟩
  | cons line rest ih =>
    rw [held]
    split
    · next h =>
      obtain ⟨dropped, hdropped, hblank⟩ := ih
      refine ⟨line :: dropped, ?_, List.forall_mem_cons.2 ⟨h.1, hblank⟩⟩
      rw [List.cons_append, ← hdropped]
    · exact ⟨[], rfl, by simp⟩

/-- Something is held of all lines. -/
theorem held_ne_nil {lines : List (List Char)} (h : lines ≠ []) : held lines ≠ [] := by
  induction lines with
  | nil => exact absurd rfl h
  | cons line rest ih =>
    rw [held]
    split
    · next hdrop => exact ih hdrop.2.1
    · exact List.cons_ne_nil line rest

/-- All lines are held where the first one is not blank, or nothing but an empty line follows. -/
theorem held_eq_self_iff (line : List Char) (rest : List (List Char)) :
    held (line :: rest) = line :: rest ↔
      line.all isBlank = false ∨ rest = [] ∨ rest = [[]] := by
  rw [held]
  split
  · next h =>
    refine iff_of_false (fun heq => ?_) ?_
    · obtain ⟨dropped, hdropped, -⟩ := exists_append_held rest
      have hlength := congrArg List.length hdropped
      rw [List.length_append, heq, List.length_cons] at hlength
      omega
    · rintro (hblank | hrest | hrest)
      · rw [h.1] at hblank
        cases hblank
      · exact h.2.1 hrest
      · exact h.2.2 hrest
  · next h =>
    refine iff_of_true rfl ?_
    by_contra hnone
    rw [not_or, not_or, Bool.not_eq_false] at hnone
    exact h hnone

/-- Fewer lines are not the same string. -/
theorem quote_held_inj {style : OneLineString} (h : style.Fits) {lines : List (List Char)}
    (hne : lines ≠ []) (heq : style.quote (held lines) = style.quote lines) :
    held lines = lines := by
  obtain ⟨dropped, hdropped, -⟩ := exists_append_held lines
  by_cases hnone : dropped = []
  · rw [hnone, List.nil_append] at hdropped
    exact hdropped.symm
  · exfalso
    have hlength := congrArg List.length heq
    have hseparator := List.length_pos_iff.2 h.separator_ne_nil
    have hall : lines.map style.escape =
        dropped.map style.escape ++ (held lines).map style.escape := by
      rw [← List.map_append, ← hdropped]
    rw [OneLineString.quote, OneLineString.quote, hall,
      joinWith_append _ (by simpa using hnone) (by simpa using held_ne_nil hne)] at hlength
    simp only [List.length_append, List.length_cons] at hlength
    omega

/-- A here-string has no hash sign. -/
theorem hash_notMem_hereString {mark : Char} (hmark : mark ∈ quotes)
    {lines : List (List Char)} (hlines : ∀ line ∈ lines, IsHeld line) :
    '#' ∉ hereString mark lines := by
  have hquote : '#' ≠ mark := by
    rcases eq_of_mem_quotes hmark with rfl | rfl <;> decide
  have hinside : '#' ∉ joinWith ['\n'] lines := by
    intro hmem
    rcases mem_joinWith hmem with hmem | ⟨line, hline, hmem⟩
    · exact absurd hmem (by decide)
    · exact (hlines line hline).notMem_hash hmem
  simp [hereString, enclosed, hquote, hinside]

/-- A here-string with something to hold becomes a string of the lines that are held. -/
theorem inlineChars_hereString {mark : Char} {style : OneLineString}
    (hstyle : OneLineString.ofMark? mark = some style) {lines : List (List Char)}
    (hne : lines ≠ []) (hempty : lines ≠ [[]]) (hlines : ∀ line ∈ lines, IsHeld line) :
    inlineChars (hereString mark lines) = style.quote (held lines) := by
  have hmark := mem_quotes_of_ofMark? hstyle
  have hfits := (fits_of_ofMark? hstyle).1
  have hheld : ∀ line ∈ held lines, OnOneLine line := by
    intro line hline
    obtain ⟨dropped, hdropped, -⟩ := exists_append_held lines
    refine (hlines line ?_).onOneLine
    rw [hdropped]
    exact List.mem_append_right dropped hline
  have hnext : nextHereString? (hereString mark lines) = some (style.quote (held lines), []) := by
    rw [hereString, nextHereString?, hstyle, hereString?_enclosed hmark hne hempty hlines,
      ← write_joinWith hfits (held_ne_nil hne) hheld]
    rfl
  have hinline : inlineHereStrings (hereString mark lines) = style.quote (held lines) := by
    rw [inlineHereStrings]
    split
    · next written rest heq =>
      rw [hnext] at heq
      cases heq
      rw [inlineHereStrings_of_notMem List.not_mem_nil, List.append_nil]
    · next heq => rw [hnext] at heq; cases heq
  have honeLine := hfits.onOneLine_quote hheld
  rw [inlineChars, dropComments_of_not_hash (hash_notMem_hereString hmark hlines), hinline,
    joinContinued_of_onOneLine honeLine]
  exact joinStatements_of_quoted hfits.mark_not_blank honeLine

/-- A here-string of one empty line stays as it is. -/
theorem inlineChars_hereString_empty {mark : Char} (hmark : mark ∈ quotes) :
    inlineChars (hereString mark [[]]) = ['@', mark, ';', ' ', mark, '@'] := by
  rcases eq_of_mem_quotes hmark with rfl | rfl <;> decide +kernel

/-- What a here-string is on one line, of lines that end none: one string of those lines that are
held.  A here-string of one empty line stays as it is.  The lines that are not held are the
first ones and blank.  The string is of all lines exactly where the first line is not blank, or
where it has only an empty line behind it or, being not empty itself, none. -/
theorem inlines_here_strings_up_to_blank_lines {mark : Char} {style : OneLineString}
    (hstyle : OneLineString.ofMark? mark = some style) {first : List Char}
    {others : List (List Char)} (hlines : ∀ line ∈ first :: others, IsHeld line) :
    (first :: others ≠ [[]] →
      inlinePowerShell (String.ofList (hereString mark (first :: others))) =
        String.ofList (style.quote (held (first :: others)))) ∧
    (first :: others = [[]] →
      inlinePowerShell (String.ofList (hereString mark (first :: others))) =
        String.ofList ['@', mark, ';', ' ', mark, '@']) ∧
    (∃ dropped, first :: others = dropped ++ held (first :: others) ∧
      ∀ line ∈ dropped, line.all isBlank = true) ∧
    (inlinePowerShell (String.ofList (hereString mark (first :: others))) =
        String.ofList (style.quote (first :: others)) ↔
      first :: others ≠ [[]] ∧ (first.all isBlank = false ∨ others = [] ∨ others = [[]])) := by
  obtain ⟨hfits, hquote⟩ := fits_of_ofMark? hstyle
  have hmark := mem_quotes_of_ofMark? hstyle
  have hne : first :: others ≠ [] := List.cons_ne_nil first others
  simp only [inlinePowerShell, String.toList_ofList, String.ofList_inj]
  refine ⟨fun hempty => inlineChars_hereString hstyle hne hempty hlines, ?_,
    exists_append_held _, ?_⟩
  · intro hempty
    rw [hempty]
    exact inlineChars_hereString_empty hmark
  · rw [← held_eq_self_iff]
    by_cases hempty : first :: others = [[]]
    · refine iff_of_false (fun heq => ?_) fun h => h.1 hempty
      rw [hempty, inlineChars_hereString_empty hmark] at heq
      -- The string of one empty line is two quotes.
      have hlength := congrArg List.length heq
      simp [OneLineString.quote, OneLineString.escape] at hlength
    · rw [inlineChars_hereString hstyle hne hempty hlines]
      constructor
      · intro heq
        exact ⟨hempty, quote_held_inj hfits hne heq⟩
      · rintro ⟨-, heq⟩
        rw [heq]

/-- Lines with quotes and blank lines behind them are all held. -/
theorem quoted_lines_inline :
    OneLineString.ofMark? '\x27' = some literalString ∧
    (∀ line ∈ ["it's".toList, [], "  so".toList, []], IsHeld line) ∧
    inlinePowerShell (String.ofList
        (hereString '\x27' ["it's".toList, [], "  so".toList, []])) =
      String.ofList (literalString.quote ["it's".toList, [], "  so".toList, []]) := by
  have hlines : ∀ line ∈ ["it's".toList, [], "  so".toList, []], IsHeld line := by decide
  have hfirst : "it's".toList.all isBlank = false := by decide
  exact ⟨rfl, hlines, (inlines_here_strings_up_to_blank_lines rfl hlines).2.2.2.2
    ⟨by decide, .inl hfirst⟩⟩

/-- A blank line at the beginning of a here-string is lost. -/
theorem blank_first_line_is_lost :
    OneLineString.ofMark? '\x27' = some literalString ∧ (∀ line ∈ [[], ['x']], IsHeld line) ∧
    String.ofList (hereString '\x27' [[], ['x']]) = "@'\n\nx\n'@" ∧
    inlinePowerShell "@'\n\nx\n'@" ≠ String.ofList (literalString.quote [[], ['x']]) := by
  decide +kernel

end Tweaks.Pipe
