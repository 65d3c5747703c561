import Mathlib.Data.List.DropRight
import Mathlib.Data.List.Forall2
import Tweaks.Assembly.Standard
import Tweaks.Proofs.Quoting

/-!
# Line endings of Windows

Where lines end in a carriage return and a line feed, all such pairs are taken for line feeds
first, and then every line feed gets its carriage return.  So nothing is doubled, whatever
stood before the line feeds, and it does not matter how the lines of a header, a footer or a
fragment ended.

Main results:

- `Text.toLineFeeds_toPairs`, `Text.getLast?_of_toPairs`: what the carriage returns do.
- `Text.Rebroken.toLineFeeds_eq`, `Text.rebroken_iff_of_not_mem`: line feeds that were made pairs
  are line feeds again.
- `Text.Rebroken.trimBreaks`, `Text.Rebroken.joinParts`: what a script is put together by goes
  along with other endings of lines.
- `Assembly.windows_endings`: scripts for Windows, and their line feeds.
-/

namespace Tweaks

/-! ## Pairs and line feeds -/

namespace Text

/-- A text with a line feed for each pair of a carriage return and a line feed. -/
def toLineFeeds (s : List Char) : List Char :=
  replace ['\r', '\n'] ['\n'] s

/-- A text with a pair of a carriage return and a line feed for each line feed. -/
def toPairs (s : List Char) : List Char :=
  replace ['\n'] ['\r', '\n'] s

@[simp]
theorem toLineFeeds_nil : toLineFeeds [] = [] := by
  rw [toLineFeeds, replace, replaceAll]

/-- A carriage return goes where a line feed follows; all other characters stay. -/
theorem toLineFeeds_cons (c : Char) (s : List Char) :
    toLineFeeds (c :: s) =
      if c = '\r' ∧ s.head? = some '\n' then toLineFeeds s else c :: toLineFeeds s := by
  have hone (t : List Char) : toLineFeeds t = replaceAll '\r' ['\n'] ['\n'] t := rfl
  rw [hone, hone]
  by_cases hc : c = '\r'
  · subst hc
    by_cases hs : s.head? = some '\n'
    · obtain ⟨rest, rfl⟩ := List.head?_eq_some_iff.1 hs
      have hpair := replaceAll_append '\r' ['\n'] ['\n'] rest
      have hfeed : replaceAll '\r' ['\n'] ['\n'] ('\n' :: rest) =
          '\n' :: replaceAll '\r' ['\n'] ['\n'] rest :=
        replaceAll_cons_of_ne ['\n'] ['\n'] rest (by decide)
      rw [if_pos ⟨rfl, hs⟩, hfeed]
      exact hpair
    · have hnone : dropExpected? ['\r', '\n'] ('\r' :: s) = none := by
        cases s with
        | nil => rfl
        | cons d rest =>
          have hd : '\n' ≠ d := by
            rintro rfl
            exact hs rfl
          simp [dropExpected?, hd]
      rw [if_neg fun h => hs h.2, replaceAll.eq_def]
      dsimp only
      split
      · next rest hrest =>
        rw [hnone] at hrest
        cases hrest
      · rfl
  · rw [if_neg fun h => hc h.1]
    exact replaceAll_cons_of_ne ['\n'] ['\n'] s (Ne.symm hc)

@[simp]
theorem toPairs_nil : toPairs [] = [] :=
  Pipe.replace_singleton '\n' ['\r', '\n'] []

/-- A line feed gets its carriage return; all other characters stay. -/
theorem toPairs_cons (c : Char) (s : List Char) :
    toPairs (c :: s) = if c = '\n' then '\r' :: '\n' :: toPairs s else c :: toPairs s := by
  unfold toPairs
  rw [Pipe.replace_singleton, Pipe.replace_singleton, List.flatMap_cons]
  split <;> rfl

/-- Two texts, one behind the other. -/
theorem toPairs_append (s t : List Char) : toPairs (s ++ t) = toPairs s ++ toPairs t := by
  unfold toPairs
  rw [Pipe.replace_singleton, Pipe.replace_singleton, Pipe.replace_singleton,
    List.flatMap_append]

/-- No line feed comes first. -/
theorem head?_toPairs_ne (s : List Char) : (toPairs s).head? ≠ some '\n' := by
  cases s with
  | nil => simp
  | cons c rest =>
    rw [toPairs_cons]
    split
    · simp
    · next hc => simpa using hc

/-- Line feeds that became pairs are line feeds again. -/
theorem toLineFeeds_toPairs (s : List Char) : toLineFeeds (toPairs s) = s := by
  induction s with
  | nil => simp
  | cons c rest ih =>
    rw [toPairs_cons]
    split
    · next hc =>
      rw [toLineFeeds_cons, if_pos ⟨rfl, rfl⟩, toLineFeeds_cons, if_neg (by simp), ih, hc]
    · rw [toLineFeeds_cons, if_neg fun h => head?_toPairs_ne rest h.2, ih]

/-- Before every line feed of a text with pairs stands a carriage return. -/
theorem getLast?_of_toPairs {s before behind : List Char}
    (h : toPairs s = before ++ '\n' :: behind) : before.getLast? = some '\r' := by
  induction s generalizing before with
  | nil => simp at h
  | cons c rest ih =>
    rw [toPairs_cons] at h
    split at h
    · match before with
      | [] => cases h
      | [d] =>
        cases h
        rfl
      | d :: e :: before =>
        injection h with _ h
        injection h with _ h
        have hlast := ih h
        rw [List.getLast?_cons_cons, List.getLast?_cons, hlast, Option.getD_some]
    · next hc =>
      cases before with
      | nil =>
        injection h with h
        exact absurd h hc
      | cons d before =>
        injection h with _ h
        have hlast := ih h
        rw [List.getLast?_cons, hlast, Option.getD_some]

/-- A line feed at the end stays there. -/
theorem exists_toLineFeeds_append (s : List Char) :
    ∃ t, toLineFeeds (s ++ ['\n']) = t ++ ['\n'] := by
  induction s with
  | nil =>
    refine ⟨[], ?_⟩
    rw [List.nil_append, toLineFeeds_cons, if_neg (by simp), toLineFeeds_nil]
  | cons c rest ih =>
    obtain ⟨t, ht⟩ := ih
    rw [List.cons_append, toLineFeeds_cons, ht]
    split
    · exact ⟨t, rfl⟩
    · exact ⟨c :: t, rfl⟩

/-! ## Other endings of lines -/

/-- A text is another one with carriage returns put before some of its line feeds, wherever
there was none. -/
inductive Rebroken : List Char → List Char → Prop
  | nil : Rebroken [] []
  | keep {c : Char} {s t : List Char} (rest : Rebroken s t)
      (alone : c = '\r' → t.head? = s.head?) : Rebroken (c :: s) (c :: t)
  | widen {s t : List Char} (rest : Rebroken s t) : Rebroken ('\n' :: s) ('\r' :: '\n' :: t)

namespace Rebroken

/-- No carriage return needs to be put anywhere. -/
theorem refl (s : List Char) : Rebroken s s := by
  induction s with
  | nil => exact .nil
  | cons c rest ih => exact .keep ih fun _ => rfl

/-- Both texts are empty, or none is. -/
theorem eq_nil_iff {s t : List Char} (h : Rebroken s t) : s = [] ↔ t = [] := by
  cases h <;> simp

/-- Two texts, one behind the other, if no pair is made where they meet. -/
theorem append {s t s' t' : List Char} (h : Rebroken s t) (h' : Rebroken s' t')
    (alone : s.getLast? = some '\r' → t'.head? = s'.head?) :
    Rebroken (s ++ s') (t ++ t') := by
  induction h with
  | nil => exact h'
  | @keep c s t rest halone ih =>
    cases rest with
    | nil => exact .keep h' fun hc => alone (congrArg some hc)
    | keep rest hrest =>
      exact .keep (ih alone) halone
    | widen rest => exact .keep (ih alone) halone
  | @widen s t rest ih =>
    refine .widen (ih fun hlast => alone ?_)
    rw [List.getLast?_cons, hlast, Option.getD_some]

/-- Two texts with a character between them that is no carriage return and stays. -/
theorem append_kept {s t s' t' : List Char} (h : Rebroken s t) (h' : Rebroken s' t') {c : Char}
    (hc : c ≠ '\r') : Rebroken (s ++ c :: s') (t ++ c :: t') :=
  h.append (.keep h' fun h => absurd h hc) fun _ => rfl

/-- Pieces one blank line apart. -/
theorem joinParts {pieces pieces' : List (List Char)} (h : List.Forall₂ Rebroken pieces pieces') :
    Rebroken (joinWith ['\n', '\n'] pieces) (joinWith ['\n', '\n'] pieces') := by
  induction h with
  | nil => exact .nil
  | cons hpiece hrest ih =>
    cases hrest with
    | nil => exact hpiece
    | cons _ _ =>
      have hfeed : '\n' ≠ '\r' := by decide
      rw [joinWith_cons_cons, joinWith_cons_cons, List.append_assoc, List.append_assoc]
      exact hpiece.append_kept (.keep ih fun h => absurd h hfeed) hfeed

/-- Both texts are blank, or none is. -/
theorem all_isBlank {s t : List Char} (h : Rebroken s t) : s.all isBlank = t.all isBlank := by
  induction h with
  | nil => rfl
  | keep _ _ ih => rw [List.all_cons, List.all_cons, ih]
  | widen _ ih =>
    have hreturn : isBlank '\r' = true := by decide
    rw [List.all_cons, List.all_cons, List.all_cons, ih, hreturn, Bool.true_and]

/-- Without the breaks that they start with. -/
theorem dropBreaks {s t : List Char} (h : Rebroken s t) :
    Rebroken (dropBreaks s) (Text.dropBreaks t) := by
  induction h with
  | nil => exact .nil
  | @keep c s t rest alone ih =>
    unfold Text.dropBreaks at ih ⊢
    by_cases hc : isBreak c = true
    · rw [List.dropWhile_cons_of_pos hc, List.dropWhile_cons_of_pos hc]
      exact ih
    · rw [List.dropWhile_cons_of_neg hc, List.dropWhile_cons_of_neg hc]
      exact .keep rest alone
  | widen _ ih => exact ih

end Rebroken

/-- What is left of a text without the characters of a kind at its end, from its start on. -/
theorem rdropWhile_cons (kind : Char → Bool) (c : Char) (s : List Char) :
    (c :: s).rdropWhile kind =
      if s.rdropWhile kind = [] ∧ kind c then [] else c :: s.rdropWhile kind := by
  have hbehind : (c :: s).rdropWhile kind =
      if (s.reverse.dropWhile kind).isEmpty then ([c].dropWhile kind).reverse
      else c :: s.rdropWhile kind := by
    rw [List.rdropWhile, List.reverse_cons, List.dropWhile_append]
    split
    · rfl
    · rw [List.reverse_append]
      rfl
  have hempty : s.rdropWhile kind = [] ↔ (s.reverse.dropWhile kind).isEmpty = true := by
    rw [List.rdropWhile, List.reverse_eq_nil_iff, List.isEmpty_iff]
  rw [hbehind]
  by_cases hs : s.rdropWhile kind = []
  · rw [if_pos (hempty.1 hs), hs]
    by_cases hc : kind c = true <;> simp [hc]
  · rw [if_neg fun h => hs (hempty.2 h), if_neg fun h => hs h.1]

/-- What is left starts as before, if anything is left. -/
theorem head?_rdropWhile {kind : Char → Bool} {s : List Char} (h : s.rdropWhile kind ≠ []) :
    (s.rdropWhile kind).head? = s.head? := by
  cases s with
  | nil => rfl
  | cons c s =>
    rw [rdropWhile_cons] at h ⊢
    split at h
    · exact absurd rfl h
    · next hkept =>
      rw [if_neg hkept]
      rfl

namespace Rebroken

/-- Without the breaks that they end with. -/
theorem rdropWhile {s t : List Char} (h : Rebroken s t) :
    Rebroken (s.rdropWhile isBreak) (t.rdropWhile isBreak) := by
  induction h with
  | nil => exact .nil
  | @keep c s t _ alone ih =>
    rw [rdropWhile_cons, rdropWhile_cons, if_congr (and_congr_left' ih.eq_nil_iff) rfl rfl]
    split
    · exact .nil
    · refine .keep ih fun hc => ?_
      by_cases hs : s.rdropWhile isBreak = []
      · rw [hs, ih.eq_nil_iff.1 hs]
      · have ht : t.rdropWhile isBreak ≠ [] := fun h => hs (ih.eq_nil_iff.2 h)
        rw [head?_rdropWhile hs, head?_rdropWhile ht, alone hc]
  | @widen s t _ ih =>
    have hreturn : isBreak '\r' = true := by decide
    have hfeed : isBreak '\n' = true := by decide
    by_cases hs : s.rdropWhile isBreak = []
    · have ht : ('\n' :: t).rdropWhile isBreak = [] := by
        rw [rdropWhile_cons, if_pos ⟨ih.eq_nil_iff.1 hs, hfeed⟩]
      rw [rdropWhile_cons, if_pos ⟨hs, hfeed⟩, rdropWhile_cons, if_pos ⟨ht, hreturn⟩]
      exact .nil
    · have ht : ('\n' :: t).rdropWhile isBreak = '\n' :: t.rdropWhile isBreak := by
        rw [rdropWhile_cons, if_neg fun h => hs (ih.eq_nil_iff.2 h.1)]
      rw [rdropWhile_cons, if_neg fun h => hs h.1, rdropWhile_cons, ht, if_neg (by simp)]
      exact .widen ih

/-- Without the breaks around them. -/
theorem trimBreaks {s t : List Char} (h : Rebroken s t) :
    Rebroken (trimBreaks s) (Text.trimBreaks t) :=
  h.dropBreaks.rdropWhile

/-- With line feeds for pairs both texts are the same. -/
theorem toLineFeeds_eq {s t : List Char} (h : Rebroken s t) : toLineFeeds t = toLineFeeds s := by
  induction h with
  | nil => rfl
  | @keep c s t _ alone ih =>
    have hpair : (c = '\r' ∧ t.head? = some '\n') ↔ (c = '\r' ∧ s.head? = some '\n') :=
      and_congr_right fun hc => by rw [alone hc]
    rw [toLineFeeds_cons, toLineFeeds_cons, if_congr hpair ih (congrArg _ ih)]
  | widen _ ih =>
    rw [toLineFeeds_cons, if_pos ⟨rfl, rfl⟩, toLineFeeds_cons, if_neg (by simp), ih,
      toLineFeeds_cons, if_neg (by simp)]

end Rebroken

/-- A text without carriage returns has no pairs. -/
theorem toLineFeeds_of_not_mem {s : List Char} (h : '\r' ∉ s) : toLineFeeds s = s := by
  induction s with
  | nil => exact toLineFeeds_nil
  | cons c rest ih =>
    rw [List.mem_cons, not_or] at h
    rw [toLineFeeds_cons, if_neg fun hc => h.1 hc.1.symm, ih h.2]

/-- Of a text without carriage returns any line feeds may be made pairs: what comes out is every
text that is the same with line feeds for pairs. -/
theorem rebroken_iff_of_not_mem {s t : List Char} (h : '\r' ∉ s) :
    Rebroken s t ↔ toLineFeeds t = s := by
  constructor
  · intro hst
    rw [hst.toLineFeeds_eq, toLineFeeds_of_not_mem h]
  · intro ht
    induction t generalizing s with
    | nil =>
      rw [← ht, toLineFeeds_nil]
      exact .nil
    | cons c t ih =>
      rw [toLineFeeds_cons] at ht
      split at ht
      · next hc =>
        -- The text goes on with a line feed, which stands there for the pair.
        obtain ⟨rest, rfl⟩ := List.head?_eq_some_iff.1 hc.2
        have hfeed : toLineFeeds ('\n' :: rest) = '\n' :: toLineFeeds rest := by
          rw [toLineFeeds_cons, if_neg (by simp)]
        rw [hc.1, ← ht, hfeed]
        rw [← ht] at h
        have hpair := ih h rfl
        rw [hfeed] at hpair
        cases hpair with
        | keep hrest _ => exact .widen hrest
      · rw [← ht] at h ⊢
        rw [List.mem_cons, not_or] at h
        exact .keep (ih h.2 rfl) fun hc => absurd hc.symm h.1

end Text

/-! ## Scripts for Windows -/

open Text (Rebroken toLineFeeds toPairs)

/-- A fragment is another one that has carriage returns before some more of the line feeds in
its text. -/
structure Fragment.Rebroken (f f' : Fragment) : Prop where
  name : f'.name = f.name
  direction : f'.direction = f.direction
  text : Text.Rebroken f.text.toList f'.text.toList

namespace Assembly

/-- How a text ends its lines on Windows. -/
theorem toList_withLineEnding_windows (text : String) :
    (withLineEnding "\r\n" text).toList = toPairs (toLineFeeds text.toList) := by
  rw [withLineEnding, if_neg (by decide)]
  exact String.toList_ofList

/-- The usual banner goes along with other endings of lines in a fragment's text. -/
theorem rebroken_standardText (mark : String) {f f' : Fragment} (h : f.Rebroken f') :
    Rebroken (standardText mark f).toList (standardText mark f').toList := by
  have htitle : f'.title = f.title := by
    rw [Fragment.title, Fragment.title, h.direction, h.name]
  rw [toList_standardText, toList_standardText, htitle]
  have hbehind := h.text.append_kept (.refl (ruleLine mark "").toList) (c := '\n') (by decide)
  exact (Rebroken.refl _).append_kept hbehind (by decide)

/-- So does a fragment without banner. -/
theorem rebroken_usualText (comment : Option String) {f f' : Fragment} (h : f.Rebroken f') :
    Rebroken (usualText comment f).toList (usualText comment f').toList := by
  cases comment with
  | none => exact h.text
  | some mark => exact rebroken_standardText mark h

/-- Headers and footers go along with other endings of their lines. -/
theorem rebroken_framePart {text text' : String} (h : Rebroken text.toList text'.toList) :
    List.Forall₂ (fun s t => Rebroken s.toList t.toList) (framePart text) (framePart text') := by
  have hblank : Text.isBlankText text' = Text.isBlankText text := h.all_isBlank.symm
  unfold framePart
  rw [hblank]
  split
  · exact .nil
  · refine .cons ?_ .nil
    rw [Text.trim, Text.trim, String.toList_ofList, String.toList_ofList]
    exact h.trimBreaks

/-- A script goes along with other endings of lines in all that it is put together from. -/
theorem rebroken_usualScript (comment : Option String) {header header' footer footer' : String}
    {fragments fragments' : List Fragment} (hheader : Rebroken header.toList header'.toList)
    (hfooter : Rebroken footer.toList footer'.toList)
    (hfragments : List.Forall₂ Fragment.Rebroken fragments fragments') :
    Rebroken (usualScript comment header footer fragments).toList
      (usualScript comment header' footer' fragments').toList := by
  have htexts : List.Forall₂ (fun s t => Rebroken s.toList t.toList)
      (fragments.map (usualText comment)) (fragments'.map (usualText comment)) := by
    rw [List.forall₂_map_left_iff, List.forall₂_map_right_iff]
    exact hfragments.imp fun _ _ h => rebroken_usualText comment h
  have hparts := List.rel_append
    (List.rel_append (rebroken_framePart hheader) htexts) (rebroken_framePart hfooter)
  have hjoined := Rebroken.joinParts
    (List.forall₂_map_left_iff.2 (List.forall₂_map_right_iff.2 hparts))
  unfold usualScript
  rw [toList_parts, toList_parts]
  exact hjoined.append_kept .nil (by decide)

/-- A script for Windows ends in a carriage return and a line feed, every line feed in it has a
carriage return before it, and with line feeds for these pairs it is what the script for other
systems is with line feeds for its own.  It does not matter which line feeds of the header, the
footer and the fragments had carriage returns. -/
theorem windows_endings {style : Style}
    (usual : style.comment = none ∨ style.banner = standardBanner) (header footer : String)
    (fragments : List Fragment) :
    ∃ unix windows,
      assemble { style with lineEnding := "\n" } header footer fragments = .ok unix ∧
      assemble { style with lineEnding := "\r\n" } header footer fragments = .ok windows ∧
      (∃ s, windows.toList = s ++ ['\r', '\n']) ∧
      (∀ before behind, windows.toList = before ++ '\n' :: behind →
        before.getLast? = some '\r') ∧
      toLineFeeds windows.toList = toLineFeeds unix.toList ∧
      ∀ header' footer' fragments', Rebroken header.toList header'.toList →
        Rebroken footer.toList footer'.toList →
        List.Forall₂ Fragment.Rebroken fragments fragments' →
        assemble { style with lineEnding := "\r\n" } header' footer' fragments' =
          .ok windows := by
  have hscript (lineEnding header footer : String) (fragments : List Fragment) :
      assemble { style with lineEnding := lineEnding } header footer fragments =
        .ok (withLineEnding lineEnding (usualScript style.comment header footer fragments)) :=
    @assemble_usual { style with lineEnding := lineEnding } usual header footer fragments
  have hwindows (header footer : String) (fragments : List Fragment) :=
    toList_withLineEnding_windows (usualScript style.comment header footer fragments)
  refine ⟨usualScript style.comment header footer fragments,
    withLineEnding "\r\n" (usualScript style.comment header footer fragments), ?_,
    hscript "\r\n" header footer fragments, ?_, ?_, ?_, ?_⟩
  · rw [hscript, withLineEnding_lineFeed]
  · obtain ⟨s, hs⟩ := exists_usualScript_eq style.comment header footer fragments
    obtain ⟨t, ht⟩ := Text.exists_toLineFeeds_append s
    refine ⟨toPairs t, ?_⟩
    rw [hwindows, hs, ht, Text.toPairs_append, Text.toPairs_cons, if_pos rfl, Text.toPairs_nil]
  · intro before behind h
    rw [hwindows] at h
    exact Text.getLast?_of_toPairs h
  · rw [hwindows, Text.toLineFeeds_toPairs]
  · intro header' footer' fragments' hheader hfooter hfragments
    have hrebroken := rebroken_usualScript style.comment hheader hfooter hfragments
    have hsame : withLineEnding "\r\n" (usualScript style.comment header' footer' fragments') =
        withLineEnding "\r\n" (usualScript style.comment header footer fragments) := by
      rw [← String.toList_inj, hwindows, hwindows, hrebroken.toLineFeeds_eq]
    rw [hscript, hsame]

/-- A script with a banner keeps its text for Windows when its fragment and its header end their
lines like on Windows. -/
theorem windows_endings_of_rebroken_script :
    ∃ windows,
      assemble (Style.standard (some "#") "\r\n") "#!/bin/sh\n" ""
        [⟨"update", "apt update\napt upgrade", none, .forward⟩] = .ok windows ∧
      assemble (Style.standard (some "#") "\r\n") "#!/bin/sh\r\n" ""
        [⟨"update", "apt update\r\napt upgrade", none, .forward⟩] = .ok windows := by
  have hpairs (s t : String) (hs : '\r' ∉ s.toList) (ht : toLineFeeds t.toList = s.toList) :
      Rebroken s.toList t.toList := (Text.rebroken_iff_of_not_mem hs).2 ht
  obtain ⟨-, windows, -, hwindows, -, -, -, hsame⟩ :=
    @windows_endings (Style.standard (some "#") "\n") (Or.inr rfl) "#!/bin/sh\n" ""
      [⟨"update", "apt update\napt upgrade", none, .forward⟩]
  refine ⟨windows, hwindows, hsame "#!/bin/sh\r\n" "" _ ?_ .nil (.cons ⟨rfl, rfl, ?_⟩ .nil)⟩
  · exact hpairs _ _ (by decide) (by simp [Text.toLineFeeds_cons])
  · exact hpairs _ _ (by decide) (by simp [Text.toLineFeeds_cons])

end Assembly

end Tweaks
