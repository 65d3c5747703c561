import Tweaks.Proofs.Quoting
import Tweaks.Proofs.Trimming

/-!
# Scripts that stay on one line

Putting a script on one line leaves one line without blanks around it.  Here-strings and
continued lines need a break, so that there is nothing of the kind left on that line, and
putting it on one line once more can only drop comments.  Without a hash sign there are none:
what is inserted on the way never brings one in.

Main results:

- `onOneLine_joinStatements`, `trimmed_joinStatements`: what is left is one clean line.
- `inlineChars_of_onOneLine`: of one line only comments are dropped, and blanks around it.
- `mem_of_mem_inlineHereStrings`, `mem_of_mem_joinContinued`, `mem_of_mem_joinStatements`: what
  the passes insert.
- `settles_on_one_line`: the line, and what a second time makes of it.
-/

namespace Tweaks.Pipe

open Text

/-! ## One clean line -/

/-- What is left without blanks around it. -/
theorem trimmed_stripChars (s : List Char) : Trimmed isBlank (stripChars s) :=
  trimmed_dropWhile isBlank s

/-- A text without blanks around it loses none. -/
theorem stripChars_of_trimmed {s : List Char} (h : Trimmed isBlank s) : stripChars s = s := by
  have hfirst : dropBlank s = s := by
    cases s with
    | nil => rfl
    | cons c rest => exact dropBlank_cons_of_not_blank (h.first c rfl)
  have hlast : s.rdropWhile isBlank = s := by
    rw [List.rdropWhile_eq_self_iff]
    intro hne
    have hend := h.last _ (List.getLast?_eq_some_getLast hne)
    simp [hend]
  calc stripChars s = (dropBlank s).rdropWhile isBlank := rfl
    _ = s := by rw [hfirst, hlast]

/-- Of the characters of a text those remain that are no blanks around it. -/
theorem mem_of_mem_stripChars {s : List Char} {c : Char} (h : c ∈ stripChars s) : c ∈ s := by
  have hstart := List.rdropWhile_prefix isBlank (l := dropBlank s)
  exact (List.dropWhile_sublist _).subset (hstart.subset h)

/-- A joined statement says something, and has no blanks around it. -/
theorem statement_of_mem {s piece : List Char}
    (h : piece ∈ ((splitLines s).map stripChars).filter fun line => !line.isEmpty) :
    piece ≠ [] ∧ ∃ line ∈ splitLines s, stripChars line = piece := by
  obtain ⟨hmem, hsome⟩ := List.mem_filter.1 h
  refine ⟨?_, List.mem_map.1 hmem⟩
  rintro rfl
  cases hsome

/-- Joined statements are on one line. -/
theorem onOneLine_joinStatements (s : List Char) : OnOneLine (joinStatements s) := by
  have hseparator : OnOneLine "; ".toList := by decide
  intro c hc
  rcases mem_joinWith hc with hc | ⟨piece, hpiece, hc⟩
  · exact hseparator c hc
  · obtain ⟨-, line, hline, rfl⟩ := statement_of_mem hpiece
    exact not_isBreak_of_mem_splitLines hline c (mem_of_mem_stripChars hc)

/-- Joined statements have no blanks around them. -/
theorem trimmed_joinStatements (s : List Char) : Trimmed isBlank (joinStatements s) := by
  refine trimmed_joinWith _ ?_
  intro piece hpiece
  obtain ⟨hsome, line, -, rfl⟩ := statement_of_mem hpiece
  exact ⟨hsome, trimmed_stripChars line⟩

/-! ## A second time -/

/-- What is on one line is one statement, if it says something. -/
theorem joinStatements_of_onOneLine {s : List Char} (h : OnOneLine s) :
    joinStatements s = stripChars s := by
  have hlines := splitLines_append h (s := []) rfl
  rw [List.append_nil] at hlines
  rw [joinStatements, hlines, List.map_singleton]
  by_cases hempty : stripChars s = []
  · rw [hempty]
    rfl
  · rw [List.filter_cons_of_pos (by simpa using hempty)]
    rfl

/-- Without a break the content of a here-string starts nowhere. -/
theorem contentStarts_of_onOneLine {s : List Char} (h : OnOneLine s) : contentStarts s = [] := by
  induction s with
  | nil => rfl
  | cons c rest ih =>
    have hc : isBreak c = false := h c List.mem_cons_self
    have hrest : contentStarts rest = [] := ih fun d hd => h d (List.mem_cons_of_mem c hd)
    rw [contentStarts, hrest, hc]
    simp

/-- On one line there is no here-string. -/
theorem inlineHereStrings_of_onOneLine {s : List Char} (h : OnOneLine s) :
    inlineHereStrings s = s := by
  induction s with
  | nil => exact inlineHereStrings.eq_def []
  | cons c s ih =>
    have hnext : nextHereString? (c :: s) = none := by
      unfold nextHereString?
      split
      · next q rest heq =>
        cases heq
        have hrest : OnOneLine rest := fun d hd =>
          h d (List.mem_cons_of_mem _ (List.mem_cons_of_mem _ hd))
        have hnone : hereString? rest = none := by
          rw [hereString?, contentStarts_of_onOneLine hrest]
          rfl
        rw [hnone]
        cases OneLineString.ofMark? q <;> rfl
      · rfl
    rw [inlineHereStrings]
    split
    · next heq => rw [hnext] at heq; cases heq
    · exact congrArg (c :: ·) (ih fun d hd => h d (List.mem_cons_of_mem c hd))

/-- A block comment is cut in two by its close. -/
theorem eq_append_of_cutLastClose? {s before after : List Char}
    (h : cutLastClose? s = some (before, after)) : s = before ++ '#' :: '>' :: after := by
  induction s generalizing before with
  | nil => cases h
  | cons c s ih =>
    rw [cutLastClose?] at h
    split at h
    · next b a hs =>
      cases h
      rw [List.cons_append, ← ih hs]
    · split at h
      · next hclose =>
        cases h
        rw [Bool.and_eq_true, decide_eq_true_eq, decide_eq_true_eq] at hclose
        obtain ⟨rfl, hhead⟩ := hclose
        obtain ⟨rest, rfl⟩ := List.head?_eq_some_iff.1 hhead
        rfl
      · cases h

/-- What a block comment says, and what follows it, belongs to the text behind its opening. -/
theorem subset_of_blockComment? {s comment rest : List Char}
    (h : blockComment? s = some (comment, rest)) : comment ⊆ s ∧ rest ⊆ s := by
  simp only [blockComment?, restOfLine] at h
  obtain ⟨⟨before, after⟩, hcut, heq⟩ := Option.map_eq_some_iff.1 h
  cases heq
  have hline := eq_append_of_cutLastClose? hcut
  have hwhole := List.takeWhile_append_dropWhile (p := fun c : Char => decide (c ≠ '\n'))
    (l := dropBlank s)
  have hsub : dropBlank s ⊆ s := (List.dropWhile_sublist _).subset
  rw [hline] at hwhole
  constructor
  · intro c hc
    apply hsub
    rw [← hwhole]
    simp [hc]
  · intro c hc
    apply hsub
    rw [← hwhole]
    rcases List.mem_append.1 hc with hc | hc
    · simp [hc]
    · exact List.mem_append_right _ hc

/-- Where comments are dropped nothing is inserted but the marks of block comments. -/
theorem mem_dropComments {s : List Char} {c : Char} (h : c ∈ dropComments s) :
    c ∈ s ∨ c ∈ "<# #>".toList := by
  fun_induction dropComments s with
  | case1 => cases h
  | case2 s ih =>
    rcases ih h with h | h
    · exact .inl (List.mem_cons_of_mem _ ((afterLineComment_suffix s).subset h))
    · exact .inr h
  | case3 d s hd hopen comment rest hblock ih =>
    obtain ⟨hcomment, hrest⟩ := subset_of_blockComment? hblock
    have htail : s.tail ⊆ d :: s := fun e he => List.mem_cons_of_mem d (List.mem_of_mem_tail he)
    rw [List.mem_append, List.mem_append, List.mem_append] at h
    have hopening : "<# ".toList ⊆ "<# #>".toList := by decide
    have hclosing : " #>".toList ⊆ "<# #>".toList := by decide
    rcases h with ((h | h) | h) | h
    · exact .inr (hopening h)
    · exact .inl (htail (hcomment (mem_of_mem_stripChars h)))
    · exact .inr (hclosing h)
    · rcases ih h with h | h
      · exact .inl (htail (hrest h))
      · exact .inr h
  | case4 d s hd hopen hblock ih =>
    rcases List.mem_cons.1 h with rfl | h
    · exact .inl List.mem_cons_self
    · exact (ih h).imp (List.mem_cons_of_mem d) id
  | case5 d s hd hopen ih =>
    rcases List.mem_cons.1 h with rfl | h
    · exact .inl List.mem_cons_self
    · exact (ih h).imp (List.mem_cons_of_mem d) id

/-- What is on one line stays there without its comments. -/
theorem onOneLine_dropComments {s : List Char} (h : OnOneLine s) : OnOneLine (dropComments s) := by
  have hmarks : OnOneLine "<# #>".toList := by decide
  intro c hc
  rcases mem_dropComments hc with hc | hc
  · exact h c hc
  · exact hmarks c hc

/-- Of what is on one line only comments are dropped, and the blanks around it. -/
theorem inlineChars_of_onOneLine {s : List Char} (h : OnOneLine s) :
    inlineChars s = stripChars (dropComments s) := by
  have hline := onOneLine_dropComments h
  rw [inlineChars, inlineHereStrings_of_onOneLine hline, joinContinued_of_onOneLine hline,
    joinStatements_of_onOneLine hline]

/-! ## What is inserted -/

/-- The characters that strings on one line bring in. -/
def stringSigns : List Char :=
  "\x27\x22+\x60rn".toList

/-- What follows the end of a here-string belongs to the text. -/
theorem subset_of_afterClose? {s rest : List Char} (h : afterClose? s = some rest) :
    rest ⊆ s := by
  unfold afterClose? at h
  split at h
  · next q t ht =>
    split at h
    · cases h
      have hbehind : q :: '@' :: rest ⊆ s := by
        unfold afterBreak? at ht
        split at ht
        · cases ht
          exact List.subset_cons_of_subset _ (List.subset_cons_self _ _)
        · cases ht
          exact List.subset_cons_self _ _
        · cases ht
          exact List.subset_cons_self _ _
        · cases ht
      intro c hc
      exact hbehind (List.mem_cons_of_mem _ (List.mem_cons_of_mem _ hc))
    · cases h
  · cases h

/-- What the content of a here-string says belongs to the text, and so does what follows. -/
theorem subset_of_contentUpto? {read s content rest : List Char}
    (h : contentUpto? read s = some (content, rest)) : content ⊆ read ++ s ∧ rest ⊆ s := by
  induction s generalizing read with
  | nil => cases h
  | cons c s ih =>
    rw [contentUpto?] at h
    split at h
    · next after _ hclose =>
      cases h
      refine ⟨?_, subset_of_afterClose? hclose⟩
      intro d hd
      exact List.mem_append_left _ (List.mem_reverse.1 hd)
    · obtain ⟨hcontent, hrest⟩ := ih h
      refine ⟨?_, fun d hd => List.mem_cons_of_mem c (hrest hd)⟩
      intro d hd
      have hmem := hcontent hd
      rw [List.cons_append, List.mem_cons, List.mem_append] at hmem
      rw [List.mem_append, List.mem_cons]
      tauto

/-- The content of a here-string starts at a place in the text. -/
theorem subset_of_mem_contentStarts {s start : List Char} (h : start ∈ contentStarts s) :
    start ⊆ s := by
  induction s with
  | nil => cases h
  | cons c s ih =>
    rw [contentStarts] at h
    split at h
    · rcases List.mem_append.1 h with h | h
      · exact List.subset_cons_of_subset c (ih h)
      · split at h
        · rw [List.mem_singleton.1 h]
          exact List.subset_cons_self c s
        · cases h
    · cases h

/-- What a here-string says belongs to the text behind its opening, and so does what follows. -/
theorem subset_of_hereString? {s content rest : List Char}
    (h : hereString? s = some (content, rest)) : content ⊆ s ∧ rest ⊆ s := by
  obtain ⟨start, hstart, hcontent⟩ := List.exists_of_findSome?_eq_some h
  obtain ⟨hsub, hsub'⟩ := subset_of_contentUpto? hcontent
  have hplace := subset_of_mem_contentStarts hstart
  exact ⟨List.Subset.trans hsub hplace, List.Subset.trans hsub' hplace⟩

/-- The quotes of strings, escaped or not, and what stands for breaks are signs of strings. -/
theorem subset_stringSigns {mark : Char} {style : OneLineString}
    (h : OneLineString.ofMark? mark = some style) :
    style.mark ∈ stringSigns ∧ style.escaped ⊆ stringSigns ∧ style.separator ⊆ stringSigns := by
  rcases eq_of_mem_quotes (mem_quotes_of_ofMark? h) with rfl | rfl <;> cases h <;> decide

/-- A string on one line holds the characters of its content, and signs of strings. -/
theorem mem_write {mark : Char} {style : OneLineString}
    (hstyle : OneLineString.ofMark? mark = some style) {content : List Char} {c : Char}
    (h : c ∈ style.write content) : c ∈ content ∨ c ∈ stringSigns := by
  obtain ⟨hmark, hescaped, hseparator⟩ := subset_stringSigns hstyle
  rw [OneLineString.write, List.cons_append, List.mem_cons, List.mem_append,
    List.mem_singleton] at h
  rcases h with rfl | h | rfl
  · exact .inr hmark
  · rcases mem_joinWith h with h | ⟨line, hline, h⟩
    · exact .inr (hseparator h)
    · have hmem := mem_of_mem_splitLines hline h
      rw [replace_singleton, List.mem_flatMap] at hmem
      obtain ⟨d, hd, hmem⟩ := hmem
      split at hmem
      · exact .inr (hescaped hmem)
      · rw [List.mem_singleton.1 hmem]
        exact .inl hd
  · exact .inr hmark

/-- A here-string at the start of a text, on one line, holds characters of the text and signs
of strings; what follows it belongs to the text. -/
theorem mem_of_nextHereString? {s written rest : List Char}
    (h : nextHereString? s = some (written, rest)) :
    (∀ c ∈ written, c ∈ s ∨ c ∈ stringSigns) ∧ rest ⊆ s := by
  unfold nextHereString? at h
  split at h
  · next q t =>
    simp only [Option.bind_eq_bind, Option.bind_eq_some_iff] at h
    obtain ⟨style, hstyle, ⟨content, after⟩, hs, heq⟩ := h
    cases heq
    obtain ⟨hcontent, hrest⟩ := subset_of_hereString? hs
    have hopening : t ⊆ '@' :: q :: t :=
      List.subset_cons_of_subset _ (List.subset_cons_self q t)
    refine ⟨?_, List.Subset.trans hrest hopening⟩
    intro c hc
    rcases mem_write hstyle hc with hc | hc
    · exact .inl (hopening (hcontent hc))
    · exact .inr hc
  · cases h

/-- Where here-strings are put on one line nothing is inserted but signs of strings. -/
theorem mem_of_mem_inlineHereStrings {s : List Char} {c : Char} (h : c ∈ inlineHereStrings s) :
    c ∈ s ∨ c ∈ stringSigns := by
  fun_induction inlineHereStrings s with
  | case1 s written rest hnext ih =>
    obtain ⟨hwritten, hrest⟩ := mem_of_nextHereString? hnext
    rcases List.mem_append.1 h with h | h
    · exact hwritten c h
    · exact (ih h).imp (fun hc => hrest hc) id
  | case2 => cases h
  | case3 d s hnext ih =>
    rcases List.mem_cons.1 h with rfl | h
    · exact .inl List.mem_cons_self
    · exact (ih h).imp (List.mem_cons_of_mem d) id

/-- What follows a continuation belongs to the text. -/
theorem subset_of_afterContinuation? {s rest : List Char}
    (h : afterContinuation? s = some rest) : rest ⊆ s := by
  unfold afterContinuation? at h
  split at h
  · next t =>
    split at h
    · next u hu =>
      split at h
      · cases h
        have hticks : u ⊆ t := by
          have hsub := (List.dropWhile_sublist (fun c : Char => decide (c = ' ')) (l := t)).subset
          rw [hu] at hsub
          exact (List.cons_subset.1 hsub).2
        have hblanks : dropBlank u ⊆ u := (List.dropWhile_sublist _).subset
        exact List.subset_cons_of_subset _ (List.Subset.trans hblanks hticks)
      · cases h
    · cases h
  · cases h

/-- Where continued lines are joined nothing is inserted but spaces. -/
theorem mem_of_mem_joinContinued {s : List Char} {c : Char} (h : c ∈ joinContinued s) :
    c ∈ s ∨ c = ' ' := by
  fun_induction joinContinued s with
  | case1 s rest hnext ih =>
    rcases List.mem_cons.1 h with rfl | h
    · exact .inr rfl
    · exact (ih h).imp (fun hc => subset_of_afterContinuation? hnext hc) id
  | case2 => cases h
  | case3 d s hnext ih =>
    rcases List.mem_cons.1 h with rfl | h
    · exact .inl List.mem_cons_self
    · exact (ih h).imp (List.mem_cons_of_mem d) id

/-- Where statements are joined nothing is inserted but semicolons and spaces. -/
theorem mem_of_mem_joinStatements {s : List Char} {c : Char} (h : c ∈ joinStatements s) :
    c ∈ s ∨ c ∈ "; ".toList := by
  rcases mem_joinWith h with h | ⟨piece, hpiece, h⟩
  · exact .inr h
  · obtain ⟨-, line, hline, rfl⟩ := statement_of_mem hpiece
    exact .inl (mem_of_mem_splitLines hline (mem_of_mem_stripChars h))

/-- No hash sign is brought in. -/
theorem hash_notMem_inlineChars {s : List Char} (h : '#' ∉ s) : '#' ∉ inlineChars s := by
  intro hmem
  rw [inlineChars, dropComments_of_not_hash h] at hmem
  rcases mem_of_mem_joinStatements hmem with hmem | hmem
  · rcases mem_of_mem_joinContinued hmem with hmem | hmem
    · rcases mem_of_mem_inlineHereStrings hmem with hmem | hmem
      · exact h hmem
      · revert hmem
        decide
    · cases hmem
  · revert hmem
    decide

/-- Every script is put on one line without blanks around it.  A second time only drops the
comments of that line and the blanks that are then around it; so where the script has no hash
sign, it changes nothing. -/
theorem settles_on_one_line (text : String) :
    OnOneLine (inlinePowerShell text).toList ∧
    Trimmed isBlank (inlinePowerShell text).toList ∧
    inlinePowerShell (inlinePowerShell text) =
      String.ofList (stripChars (dropComments (inlinePowerShell text).toList)) ∧
    ('#' ∉ text.toList → inlinePowerShell (inlinePowerShell text) = inlinePowerShell text) := by
  have hline : OnOneLine (inlinePowerShell text).toList := by
    rw [inlinePowerShell, String.toList_ofList]
    exact onOneLine_joinStatements _
  have htrimmed : Trimmed isBlank (inlinePowerShell text).toList := by
    rw [inlinePowerShell, String.toList_ofList]
    exact trimmed_joinStatements _
  have hsecond : inlinePowerShell (inlinePowerShell text) =
      String.ofList (stripChars (dropComments (inlinePowerShell text).toList)) :=
    congrArg String.ofList (inlineChars_of_onOneLine hline)
  refine ⟨hline, htrimmed, hsecond, ?_⟩
  intro hhash
  have hnone : '#' ∉ (inlinePowerShell text).toList := by
    rw [inlinePowerShell, String.toList_ofList]
    exact hash_notMem_inlineChars hhash
  rw [hsecond, dropComments_of_not_hash hnone, stripChars_of_trimmed htrimmed,
    String.ofList_toList]

/-- A script with a continued line and a here-string of two lines. -/
theorem continued_script_settles :
    '#' ∉ " a \x60\n b\r\n\n@'\nx\ny\n'@".toList ∧
    inlinePowerShell " a \x60\n b\r\n\n@'\nx\ny\n'@" = "a b; 'x'+\"\x60r\x60n\"+'y'" ∧
    inlinePowerShell (inlinePowerShell " a \x60\n b\r\n\n@'\nx\ny\n'@") =
      inlinePowerShell " a \x60\n b\r\n\n@'\nx\ny\n'@" := by
  have hhash : '#' ∉ " a \x60\n b\r\n\n@'\nx\ny\n'@".toList := by decide
  obtain ⟨-, -, -, hsettles⟩ := settles_on_one_line " a \x60\n b\r\n\n@'\nx\ny\n'@"
  exact ⟨hhash, by with_unfolding_all decide, hsettles hhash⟩

end Tweaks.Pipe
