import Tweaks.Proofs.Covering
import Tweaks.Proofs.Nesting
import Tweaks.Template.Render

/-!
# Templates one above the other

A template of whole lines and another one below it are one template.  Where the upper source
ends, a line begins, as it does where the lower source begins; so a tag of the upper one that has
its line for itself finds the same break, and a tag of the lower one finds nothing before it on
its line, with or without the other source.  Only the last text of the upper and the first text
of the lower source are no longer told apart.

Main results:

- `nextGroup?_append`, `blankLineEnd?_append`, `startsLine_append_of_beginsLine`: what a scan
  sees of one source does not change when the other one is there.
- `stacked_scan`: the tokens of both sources.
- `exists_stacked`: the template that both make up, by its pieces.
- `render_stacked`: what it renders to.
- `templates_stack`: all of it together.
-/

namespace Tweaks.Template

open Text

/-! ## Closed sources -/

/-- No pair of braces opens behind the last group of double braces of a text, or anywhere if there
is none.  The groups are found from left to right. -/
inductive Closed : List Char → Prop
  | plain {s : List Char} (none_opens : ¬HasPair '{' s) : Closed s
  | group {skipped inner rest : List Char} (first : ¬HasPair '{' (skipped ++ ['{']))
      (nearest : ¬HasPair '}' (inner ++ ['}'])) (others : Closed rest) :
      Closed (skipped ++ braced inner ++ rest)

/-- A text is cut behind what holds no pair as it is without it. -/
theorem cutPair?_append {mark : Char} {skipped : List Char}
    (h : ¬HasPair mark (skipped ++ [mark])) (s : List Char) :
    cutPair? mark (skipped ++ s) =
      (cutPair? mark s).map fun (before, after) => (skipped ++ before, after) := by
  induction skipped with
  | nil => simp
  | cons c skipped ih =>
    rw [List.cons_append, hasPair_cons_iff, not_or] at h
    have hhere : ¬(c = mark ∧ (skipped ++ s).head? = some mark) := by
      rintro ⟨rfl, hhead⟩
      refine h.1 ⟨rfl, ?_⟩
      cases skipped with
      | nil => rfl
      | cons d skipped => exact hhead
    rw [List.cons_append, cutPair?, if_neg (by simpa using hhere), ih h.2, Option.map_map]
    rfl

/-- The first group of a text is found behind what holds no pair of braces as it is without it. -/
theorem nextGroup?_append {skipped : List Char} (h : ¬HasPair '{' (skipped ++ ['{']))
    (s : List Char) :
    nextGroup? (skipped ++ s) =
      (nextGroup? s).map fun g => ⟨skipped ++ g.before, g.inner, g.after⟩ := by
  simp only [nextGroup?, cutPair?_append h, Option.bind_eq_bind]
  cases cutPair? '{' s with
  | none => rfl
  | some parts =>
    obtain ⟨before, rest⟩ := parts
    simp only [Option.map_some, Option.bind_some]
    cases cutPair? '}' rest with
    | none => rfl
    | some parts => rfl

/-- The first group of a text is found when more follows. -/
theorem nextGroup?_append_of_some {s : List Char} {g : Group} (h : nextGroup? s = some g)
    (more : List Char) : nextGroup? (s ++ more) = some { g with after := g.after ++ more } := by
  obtain ⟨hs, hfirst, hnearest⟩ := nextGroup?_eq_some_iff.1 h
  refine nextGroup?_eq_some_iff.2 ⟨?_, hfirst, hnearest⟩
  rw [hs, List.append_assoc]

/-- What holds no brace holds no pair of them with a brace behind it. -/
theorem not_hasPair_append_brace {s : List Char} (h : '{' ∉ s) : ¬HasPair '{' (s ++ ['{']) := by
  rw [hasPair_append_iff_of_notMem h]
  decide

/-- A closed text without groups holds no pair of braces. -/
theorem Closed.not_hasPair {s : List Char} (h : Closed s) (hnone : nextGroup? s = none) :
    ¬HasPair '{' s := by
  cases h with
  | plain none_opens => exact none_opens
  | group => exact absurd rfl (nextGroup?_eq_none hnone _ _ _)

/-- What follows the first group of a closed text is closed. -/
theorem Closed.after {s : List Char} (h : Closed s) {g : Group} (hnext : nextGroup? s = some g) :
    Closed g.after := by
  cases h with
  | plain none_opens =>
    refine absurd ?_ none_opens
    rw [Group.source_of_nextGroup? hnext]
    exact ⟨g.before, g.inner ++ ['}', '}'] ++ g.after, by simp [braced]⟩
  | @group skipped inner rest first nearest others =>
    have hsame : nextGroup? (skipped ++ braced inner ++ rest) = some ⟨skipped, inner, rest⟩ :=
      nextGroup?_eq_some_iff.2 ⟨rfl, first, nearest⟩
    cases hsame.symm.trans hnext
    exact others

/-- What follows the first characters of a closed text, none of them a brace, is closed. -/
theorem Closed.of_append {skipped s : List Char} (hskipped : '{' ∉ skipped)
    (h : Closed (skipped ++ s)) : Closed s := by
  have hwhole := nextGroup?_append (not_hasPair_append_brace hskipped) s
  cases hnext : nextGroup? s with
  | none =>
    rw [hnext, Option.map_none] at hwhole
    refine .plain ?_
    rw [← hasPair_append_iff_of_notMem hskipped]
    exact h.not_hasPair hwhole
  | some g =>
    rw [hnext, Option.map_some] at hwhole
    obtain ⟨hs, hfirst, hnearest⟩ := nextGroup?_eq_some_iff.1 hnext
    have hafter := h.after hwhole
    rw [hs]
    exact .group hfirst hnearest hafter

/-! ## Lines -/

/-- The end of a line is found where it is, if there is a break before more follows. -/
theorem blankLineEnd?_append {s : List Char} (h : '\n' ∈ s) (more : List Char) :
    blankLineEnd? (s ++ more) =
      (blankLineEnd? s).map fun (ending, rest) => (ending, rest ++ more) := by
  obtain ⟨front, back, rfl⟩ := List.append_of_mem h
  have hstop (rest : List Char) :
      (front ++ '\n' :: rest).takeWhile isIndent = front.takeWhile isIndent ∧
        (front ++ '\n' :: rest).dropWhile isIndent = front.dropWhile isIndent ++ '\n' :: rest :=
    takeWhile_dropWhile_append_stop (by simp [isIndent]) front
  rw [List.append_assoc, List.cons_append, blankLineEnd?, blankLineEnd?, (hstop _).1, (hstop _).2,
    (hstop back).1, (hstop back).2]
  -- What is left of the line decides, and there is something left, if only the break.
  cases front.dropWhile isIndent with
  | nil => rfl
  | cons c rest =>
    cases rest with
    | nil => split <;> simp_all
    | cons d rest => split <;> simp_all

/-- What has a last character is not empty. -/
theorem ne_nil_of_getLast? {s : List Char} {c : Char} (h : s.getLast? = some c) : s ≠ [] := by
  rintro rfl
  cases h

/-- What starts a line does so below other lines. -/
theorem startsLine_append_of_beginsLine {atLineStart : Bool} {before : List Char}
    (h : before.getLast? = some '\n') (s : List Char) :
    startsLine atLineStart (before ++ s) = startsLine true s := by
  obtain ⟨hlast, hupto⟩ := lastLine_append_of_beginsLine (.inr h) s
  have hsome := ne_nil_of_getLast? h
  rw [startsLine, startsLine, hlast, hupto]
  simp [hsome]

/-- What follows the first group of lines is lines as well, at least one. -/
theorem getLast?_after {s : List Char} (h : BeginsLine s) {g : Group}
    (hnext : nextGroup? s = some g) : g.after.getLast? = some '\n' := by
  have hs := Group.source_of_nextGroup? hnext
  rcases h with rfl | hlast
  · cases hnext
  · rw [hs, List.getLast?_append] at hlast
    cases hafter : g.after.getLast? with
    | some c =>
      rw [hafter] at hlast
      exact hlast
    | none =>
      -- The text would end with the braces.
      rw [hafter, Option.none_or, braced, ← List.append_assoc, List.getLast?_append] at hlast
      cases hlast

/-- What follows a part of some lines begins a line. -/
theorem beginsLine_of_append {front back : List Char} (h : (front ++ back).getLast? = some '\n') :
    BeginsLine back := by
  rw [List.getLast?_append] at h
  cases hback : back.getLast? with
  | none => exact .inl (List.getLast?_eq_none_iff.1 hback)
  | some c =>
    rw [hback] at h
    exact .inr (hback.trans h)

/-- Whether a tag takes its line is decided within the lines that it stands in. -/
theorem ownLine?_append (atLineStart : Bool) {g : Group} (h : '\n' ∈ g.after)
    (more : List Char) :
    ownLine? atLineStart { g with after := g.after ++ more } =
      (ownLine? atLineStart g).map fun (ending, rest) => (ending, rest ++ more) := by
  simp only [ownLine?, blankLineEnd?_append h]
  split <;> rfl

/-! ## Tokens of two sources -/

/-- Tokens one after the other, where the texts that meet may have become one. -/
inductive Token.Meet : (front back tokens : List Token) → Prop
  | apart (front back : List Token) : Meet front back (front ++ back)
  | joined (front back : List Token) (upper lower : List Char) :
      Meet (front ++ [.text upper]) (.text lower :: back) (front ++ .text (upper ++ lower) :: back)

/-- Where tokens meet does not depend on what precedes them. -/
theorem Token.Meet.prepend {front back tokens : List Token} (h : Token.Meet front back tokens)
    (before : List Token) : Token.Meet (before ++ front) back (before ++ tokens) := by
  cases h with
  | apart =>
    rw [← List.append_assoc]
    exact .apart (before ++ front) back
  | joined front back upper lower =>
    rw [← List.append_assoc, ← List.append_assoc]
    exact .joined (before ++ front) back upper lower

/-- A text that is not empty is one token. -/
theorem textTokens_of_ne_nil {value : List Char} (h : value ≠ []) :
    textTokens value = [.text value] := by
  rw [textTokens, if_neg (mt List.isEmpty_iff.1 h)]

/-- A text and the text behind it, if there is any, become one. -/
theorem Token.meet_textTokens {upper : List Char} (h : upper ≠ []) (lower : List Char)
    (back : List Token) :
    Token.Meet [.text upper] (textTokens lower ++ back) (textTokens (upper ++ lower) ++ back) := by
  rw [textTokens_of_ne_nil (List.append_ne_nil_of_left_ne_nil h lower)]
  cases lower with
  | nil =>
    rw [List.append_nil]
    exact .apart [.text upper] back
  | cons c lower => exact .joined [] back upper (c :: lower)

/-- What opens no group of a text with a break at its end opens none with what follows. -/
theorem not_hasPair_append_brace_of_getLast? {s : List Char} (h : ¬HasPair '{' s)
    (hlast : s.getLast? = some '\n') : ¬HasPair '{' (s ++ ['{']) := by
  obtain ⟨front, rfl⟩ := List.getLast?_eq_some_iff.1 hlast
  rw [HasPair, List.infix_concat_iff, not_or]
  refine ⟨fun hsuffix => ?_, h⟩
  obtain ⟨more, hmore⟩ := hsuffix
  have hsame : more ++ ['{'] ++ ['{'] = front ++ ['\n'] ++ ['{'] := by simpa using hmore
  cases (List.append_inj' (List.append_cancel_right hsame) rfl).2

/-- Lines of text above a source join its first text, if it starts with one. -/
theorem meet_scan_of_plain {atLineStart : Bool} {upper : List Char} (h : ¬HasPair '{' upper)
    (hlast : upper.getLast? = some '\n') (lower : List Char) :
    Token.Meet [.text upper] (scan true lower) (scan atLineStart (upper ++ lower)) := by
  have hsome := ne_nil_of_getLast? hlast
  have hwhole := nextGroup?_append (not_hasPair_append_brace_of_getLast? h hlast) lower
  cases hnext : nextGroup? lower with
  | none =>
    rw [hnext, Option.map_none] at hwhole
    rw [scan_of_none hnext, scan_of_none hwhole]
    have hmeet := Token.meet_textTokens hsome lower []
    rwa [List.append_nil, List.append_nil] at hmeet
  | some g =>
    rw [hnext, Option.map_some] at hwhole
    cases htag : isTag (stripChars g.inner) with
    | false =>
      rw [scan_of_not_tag hnext htag, scan_of_not_tag hwhole htag, List.append_assoc]
      exact .joined [] _ upper _
    | true =>
      have hline :
          ownLine? atLineStart ⟨upper ++ g.before, g.inner, g.after⟩ = ownLine? true g := by
        rw [ownLine?, ownLine?, startsLine_append_of_beginsLine hlast]
      obtain ⟨hlastLine, hupto⟩ := lastLine_append_of_beginsLine (.inr hlast) g.before
      cases hown : ownLine? true g with
      | some parts =>
        rw [scan_of_ownLine hnext htag hown, scan_of_ownLine hwhole htag (hline.trans hown),
          hlastLine, hupto]
        exact Token.meet_textTokens hsome _ _
      | none =>
        rw [scan_of_tag hnext htag hown, scan_of_tag hwhole htag (hline.trans hown)]
        exact Token.meet_textTokens hsome _ _

/-- The tokens of lines with a source below them are those of the lines and those of the
source. -/
theorem stacked_scan {atLineStart : Bool} {upper : List Char} (hlines : BeginsLine upper)
    (hclosed : Closed upper) (hstart : upper = [] → atLineStart = true) (lower : List Char) :
    Token.Meet (scan atLineStart upper) (scan true lower) (scan atLineStart (upper ++ lower)) := by
  -- Behind each group, and behind a line that a tag takes, there are closed lines again.
  fun_induction scan atLineStart upper with
  | case1 atLineStart upper hnone =>
    by_cases hempty : upper = []
    · rw [hstart hempty, hempty]
      exact .apart [] _
    · rw [textTokens_of_ne_nil hempty]
      exact meet_scan_of_plain (hclosed.not_hasPair hnone) (hlines.resolve_left hempty) lower
  | case2 atLineStart upper g hnext htag ending rest hline ih =>
    have hlast := getLast?_after hlines hnext
    have hending := blankLineEnd?_of_ownLine? hline
    have hafter := eq_append_of_blankLineEnd? hending
    -- The break that ends the tag's line is above the other source.
    have hmore := ownLine?_append atLineStart (List.mem_of_getLast? hlast) lower
    rw [hline, Option.map_some] at hmore
    rw [scan_of_ownLine (nextGroup?_append_of_some hnext lower) htag hmore]
    have hclosedAfter := hclosed.after hnext
    rw [hafter] at hlast hclosedAfter
    have hrest := ih (beginsLine_of_append hlast)
      (hclosedAfter.of_append (notMem_of_blankLineEnd? hending)) fun _ => rfl
    have hmeet := hrest.prepend
      (textTokens (uptoLastLine g.before) ++ [.tag (lastLine g.before) g.inner ending])
    simpa using hmeet
  | case3 atLineStart upper g hnext htag hline ih =>
    have hlast := getLast?_after hlines hnext
    have hsome := ne_nil_of_getLast? hlast
    have hmore := ownLine?_append atLineStart (List.mem_of_getLast? hlast) lower
    rw [hline, Option.map_none] at hmore
    rw [scan_of_tag (nextGroup?_append_of_some hnext lower) htag hmore]
    have hrest := ih (.inr hlast) (hclosed.after hnext) fun hempty => absurd hempty hsome
    have hmeet := hrest.prepend (textTokens g.before ++ [.tag [] g.inner []])
    simpa using hmeet
  | case4 atLineStart upper g hnext htag ih =>
    have hlast := getLast?_after hlines hnext
    have hsome := ne_nil_of_getLast? hlast
    rw [scan_of_not_tag (nextGroup?_append_of_some hnext lower) (by simpa using htag)]
    have hrest := ih (.inr hlast) (hclosed.after hnext) fun hempty => absurd hempty hsome
    exact hrest.prepend [.text (g.before ++ braced g.inner)]

/-! ## Templates of two sources -/

/-- A template below another one, where the texts that meet may have become one. -/
inductive Stacked : (above below both : Template) → Prop
  | apart (above below : Template) : Stacked above below (above ++ below)
  | joined (front back : Template) (upper lower : String) :
      Stacked (front ++ text upper done) (text lower back)
        (front ++ text (upper ++ lower) back)

/-- Expressions that nest all their blocks go on behind others that do. -/
theorem Nested.append {depth : Nat} {front back : List (List Char)} (hfront : Nested depth front)
    (hback : Nested 0 back) : Nested depth (front ++ back) := by
  induction hfront with
  | nil => exact hback
  | cons spelled takes others ih => exact .cons spelled takes ih

/-- Tokens that meet keep their expressions. -/
theorem Token.Meet.expressions {front back tokens : List Token}
    (h : Token.Meet front back tokens) :
    tokens.filterMap Token.expression? =
      front.filterMap Token.expression? ++ back.filterMap Token.expression? := by
  cases h with
  | apart => rw [List.filterMap_append]
  | joined =>
    simp only [List.filterMap_append, List.append_assoc]
    rfl

/-- Tokens that nest their tags are read as a template. -/
theorem exists_reads_of_nested {tokens : List Token}
    (h : Nested 0 (tokens.filterMap Token.expression?)) :
    ∃ t : Template, List.Forall₂ Token.Reads tokens t.pieces := by
  obtain ⟨t, ht⟩ := exists_build_of_nested [] .done h
  exact ⟨t, reads_of_build ht⟩

/-- Tokens that meet are read as a template below another one. -/
theorem exists_stacked {front back tokens : List Token} (h : Token.Meet front back tokens)
    (hfront : Nested 0 (front.filterMap Token.expression?))
    (hback : Nested 0 (back.filterMap Token.expression?)) {s t : Template}
    (hs : List.Forall₂ Token.Reads front s.pieces) (ht : List.Forall₂ Token.Reads back t.pieces) :
    ∃ u, Stacked s t u ∧ List.Forall₂ Token.Reads tokens u.pieces := by
  cases h with
  | apart =>
    refine ⟨s ++ t, .apart s t, ?_⟩
    rw [pieces_append]
    exact List.rel_append hs ht
  | joined front back upper lower =>
    -- The tokens before and behind the texts that meet make up templates of their own.
    have hnone : [Token.text upper].filterMap Token.expression? = [] := rfl
    rw [List.filterMap_append, hnone, List.append_nil] at hfront
    obtain ⟨before, hbefore⟩ := exists_reads_of_nested hfront
    have hrest : Nested 0 (back.filterMap Token.expression?) := hback
    obtain ⟨behind, hbehind⟩ := exists_reads_of_nested hrest
    have habove : List.Forall₂ Token.Reads (front ++ [.text upper])
        (before ++ text (String.ofList upper) done).pieces := by
      rw [pieces_append]
      exact List.rel_append hbefore (.cons (.text upper) .nil)
    have hbelow : List.Forall₂ Token.Reads (.text lower :: back)
        (text (String.ofList lower) behind).pieces := .cons (.text lower) hbehind
    rw [eq_of_reads hs habove, eq_of_reads ht hbelow]
    refine ⟨_, .joined before behind _ _, ?_⟩
    rw [pieces_append, ← String.ofList_append]
    exact List.rel_append hbefore (.cons (.text _) hbehind)

/-- Templates below each other are filled in one after the other. -/
theorem render_stacked {above below both : Template} (h : Stacked above below both)
    (registry : Registry) (values : Values) :
    render registry values both = (do
      let before ← render registry values above
      let after ← render registry values below
      return before ++ after) := by
  cases h with
  | apart => exact render_append registry values above below
  | joined front back upper lower =>
    have hupper : renderIn registry values "" (text upper done) = pure upper :=
      congrArg Except.ok String.append_empty
    have hbehind (value : String) : renderIn registry values "" (text value back) = (do
        let after ← renderIn registry values "" back
        return value ++ after) := rfl
    simp only [render, renderIn_append, hupper, hbehind, bind_assoc, pure_bind,
      String.append_assoc]

/-- Lines of a source that are a template, with another template below them, are a template.  It
has the parts of the one and then the parts of the other, except that a text at the end of the
lines and a text at the start of what is below are one text.  So it is filled in as the one and
then as the other. -/
theorem templates_stack {upper lower : String} {above below : Template}
    (hlines : BeginsLine upper.toList) (hclosed : Closed upper.toList)
    (habove : parse upper = .ok above) (hbelow : parse lower = .ok below) :
    ∃ both, parse (upper ++ lower) = .ok both ∧ Stacked above below both ∧
      ∀ registry values, render registry values both = (do
        let before ← render registry values above
        let after ← render registry values below
        return before ++ after) := by
  obtain ⟨hnestedAbove, hreadsAbove⟩ := parse_eq_ok_iff.1 habove
  obtain ⟨hnestedBelow, hreadsBelow⟩ := parse_eq_ok_iff.1 hbelow
  have hmeet := stacked_scan hlines hclosed (fun _ => rfl) lower.toList
  obtain ⟨both, hstacked, hreads⟩ :=
    exists_stacked hmeet hnestedAbove hnestedBelow hreadsAbove hreadsBelow
  have hnested : Nested 0 (expressions (upper ++ lower)) := by
    rw [expressions, String.toList_append, hmeet.expressions]
    exact hnestedAbove.append hnestedBelow
  refine ⟨both, parse_eq_ok_iff.2 ⟨hnested, ?_⟩, hstacked, render_stacked hstacked⟩
  rw [String.toList_append]
  exact hreads

/-- A block whose end has the last line for itself, and another one below it that starts a line:
each takes its lines, with and without the other. -/
theorem blocks_stack :
    BeginsLine "{{ with $x }}\nx\n{{ end }}\n".toList ∧
    Closed "{{ with $x }}\nx\n{{ end }}\n".toList ∧
    ∃ both, parse ("{{ with $x }}\nx\n{{ end }}\n" ++ "{{ with $y }}\ny\n{{ end }}") = .ok both ∧
      Stacked (block "x" (text "x\n" done) done) (block "y" (text "y\n" done) done) both ∧
      ∀ registry values, render registry values both = (do
        let before ← render registry values (block "x" (text "x\n" done) done)
        let after ← render registry values (block "y" (text "y\n" done) done)
        return before ++ after) := by
  have hlines : BeginsLine "{{ with $x }}\nx\n{{ end }}\n".toList := .inr (by decide)
  have hend : Closed "\nx\n{{ end }}\n".toList := by
    change Closed ("\nx\n".toList ++ braced " end ".toList ++ "\n".toList)
    exact .group (by decide) (by decide) (.plain (by decide))
  have hclosed : Closed "{{ with $x }}\nx\n{{ end }}\n".toList := by
    change Closed ([] ++ braced " with $x ".toList ++ "\nx\n{{ end }}\n".toList)
    exact .group (by decide) (by decide) hend
  exact ⟨hlines, hclosed, templates_stack hlines hclosed (by decide +kernel) (by decide +kernel)⟩

/-- Texts that meet become one. -/
example : parse ("a\n" ++ "b") = .ok (text "a\nb" done) := by
  decide +kernel

end Tweaks.Template
