import Mathlib.Data.List.Infix
import Mathlib.Data.List.TakeWhile
import Tweaks.Template.Token
import Tweaks.Template.Tag

/-!
# What tokens cover

Tokens are cut off a source one after the other, and what is known at each cut is no more
than whether a line begins there.  Still, what a tag takes from its line can be told from
the source alone: the tag of a block takes its whole line where only spaces and tabs stand
between it and the line feed before it, or the start of the source, and only spaces and tabs
between it and the next break, or the end of the source.  Scanning is behind a line that it
took, or behind closing braces; so between the cut and the tag it sees all that it has to
see of the line.

Main results:

- `cutPair?_eq_some_iff`, `nextGroup?_eq_none`: where a group of double braces is found.
- `Groups.unique`: a source has its groups of double braces in one way.
- `exists_groups_scan`: the tags among the tokens are the groups that hold a tag.
- `ownLine_of_ownLine?`, `not_ownLine_of_ownLine?`: the decision at a cut and the look at
  the whole source are the same.
- `OwnLine.unique`: what a tag takes from its line is determined.
- `tokens_cover_source`: all of it together.
-/

namespace Tweaks.Template

open Text

/-! ## Pairs of marks -/

/-- A mark stands twice in a row in a text. -/
def HasPair (mark : Char) (s : List Char) : Prop :=
  [mark, mark] <:+: s

instance (mark : Char) (s : List Char) : Decidable (HasPair mark s) :=
  inferInstanceAs (Decidable ([mark, mark] <:+: s))

variable {mark : Char}

theorem not_hasPair_nil : ¬HasPair mark [] := by
  simp [HasPair]

/-- A pair is at the start or further behind. -/
theorem hasPair_cons_iff {c : Char} {s : List Char} :
    HasPair mark (c :: s) ↔ (c = mark ∧ s.head? = some mark) ∨ HasPair mark s := by
  rw [HasPair, List.infix_cons_iff, List.cons_prefix_cons]
  refine or_congr (and_congr eq_comm ?_) Iff.rfl
  cases s with
  | nil => simp
  | cons d s => simp [List.cons_prefix_cons, eq_comm]

/-- A text without the mark adds no pair. -/
theorem hasPair_append_iff_of_notMem {skipped s : List Char} (h : mark ∉ skipped) :
    HasPair mark (skipped ++ s) ↔ HasPair mark s := by
  induction skipped with
  | nil => rfl
  | cons c skipped ih =>
    obtain ⟨hc, hskipped⟩ := not_or.1 (mt List.mem_cons.2 h)
    rw [List.cons_append, hasPair_cons_iff, ih hskipped]
    exact or_iff_right fun hpair => hc hpair.1.symm

/-- A text is cut exactly at its first pair. -/
theorem cutPair?_eq_some_iff {s before after : List Char} :
    cutPair? mark s = some (before, after) ↔
      s = before ++ mark :: mark :: after ∧ ¬HasPair mark (before ++ [mark]) := by
  induction s generalizing before with
  | nil => simp [cutPair?]
  | cons c s ih =>
    rw [cutPair?]
    by_cases hpair : c = mark ∧ s.head? = some mark
    · rw [if_pos (by simpa using hpair)]
      obtain ⟨rfl, hhead⟩ := hpair
      obtain ⟨rest, rfl⟩ : ∃ rest, s = c :: rest := by
        cases s with
        | nil => cases hhead
        | cons d rest => cases hhead; exact ⟨rest, rfl⟩
      cases before with
      | nil =>
        have hsingle : ¬HasPair c [c] := by
          rw [hasPair_cons_iff]
          simp [not_hasPair_nil]
        simp [hsingle]
      | cons d before =>
        -- A text that goes on in front of the pair would hold it.
        simp only [Option.some.injEq, Prod.mk.injEq, reduceCtorEq, false_and, false_iff, not_and,
          not_not, List.cons_append, List.cons.injEq, and_imp]
        rintro rfl hrest
        rw [hasPair_cons_iff]
        refine .inl ⟨rfl, ?_⟩
        cases before with
        | nil => rfl
        | cons e before => cases hrest; rfl
    · rw [if_neg (by simpa using hpair), Option.map_eq_some_iff]
      constructor
      · rintro ⟨⟨before', after'⟩, hcut, heq⟩
        cases heq
        obtain ⟨rfl, hnone⟩ := ih.1 hcut
        refine ⟨rfl, ?_⟩
        rw [List.cons_append, hasPair_cons_iff]
        refine not_or.2 ⟨fun h => hpair ⟨h.1, ?_⟩, hnone⟩
        cases before' with
        | nil => rfl
        | cons e before' => exact h.2
      · rintro ⟨hs, hnone⟩
        cases before with
        | nil =>
          cases hs
          exact absurd ⟨rfl, rfl⟩ hpair
        | cons d before =>
          obtain ⟨rfl, hrest⟩ := List.cons.inj hs
          rw [List.cons_append, hasPair_cons_iff, not_or] at hnone
          exact ⟨(before, after), ih.2 ⟨hrest, hnone.2⟩, rfl⟩

/-- Behind the first pair there is all that stands behind any pair. -/
theorem suffix_of_cutPair? {s before after skipped rest : List Char}
    (h : cutPair? mark s = some (before, after)) (hs : s = skipped ++ mark :: mark :: rest) :
    rest <:+ after := by
  obtain ⟨hcut, hnone⟩ := cutPair?_eq_some_iff.1 h
  rw [hcut] at hs
  rcases List.append_eq_append_iff.1 hs with ⟨more, -, hafter⟩ | ⟨more, hbefore, hrest⟩
  · match more with
    | [] => cases hafter; exact List.suffix_rfl
    | [d] => cases hafter; exact List.suffix_cons _ _
    | d :: e :: more =>
      cases hafter
      exact ⟨more ++ [mark, mark], by simp⟩
  · match more with
    | [] => cases hrest; exact List.suffix_rfl
    | d :: more =>
      -- The other pair would end in front of the first one.
      refine absurd ?_ hnone
      cases more with
      | nil =>
        cases hrest
        exact ⟨skipped, [], by simp [hbefore]⟩
      | cons e more =>
        cases hrest
        exact ⟨skipped, more ++ [mark], by simp [hbefore]⟩

/-- A text without a pair is not cut. -/
theorem not_hasPair_of_cutPair?_eq_none {s : List Char} (h : cutPair? mark s = none) :
    ¬HasPair mark s := by
  induction s with
  | nil => exact not_hasPair_nil
  | cons c s ih =>
    rw [cutPair?] at h
    split at h
    · cases h
    · next hpair =>
      rw [hasPair_cons_iff]
      exact not_or.2 ⟨by simpa using hpair, ih (Option.map_eq_none_iff.1 h)⟩

/-! ## Groups of double braces -/

/-- The groups of double braces in a text behind another one, from left to right, each with
all that stands before and behind it.  A group opens with the first pair of braces and
closes with the next pair of closing ones; the following group is searched behind it. -/
inductive Groups : (before after : List Char) → List Group → Prop
  | nil {before after : List Char}
      (nowhere : ∀ skipped inner rest, after ≠ skipped ++ braced inner ++ rest) :
      Groups before after []
  | cons {before skipped inner rest : List Char} {groups : List Group}
      (first : ¬HasPair '{' (skipped ++ ['{'])) (nearest : ¬HasPair '}' (inner ++ ['}']))
      (others : Groups (before ++ skipped ++ braced inner) rest groups) :
      Groups before (skipped ++ braced inner ++ rest)
        (⟨before ++ skipped, inner, rest⟩ :: groups)

/-- The first group of a text is the one from the first pair of braces to the next pair of
closing ones. -/
theorem nextGroup?_eq_some_iff {s : List Char} {g : Group} :
    nextGroup? s = some g ↔ s = g.before ++ braced g.inner ++ g.after ∧
      ¬HasPair '{' (g.before ++ ['{']) ∧ ¬HasPair '}' (g.inner ++ ['}']) := by
  obtain ⟨before, inner, after⟩ := g
  simp only [nextGroup?, Option.bind_eq_bind, Option.bind_eq_some_iff, Prod.exists,
    cutPair?_eq_some_iff, Option.some.injEq, Group.mk.injEq]
  constructor
  · rintro ⟨_, rest, ⟨rfl, hfirst⟩, _, _, ⟨rfl, hnearest⟩, rfl, rfl, rfl⟩
    exact ⟨by simp [braced], hfirst, hnearest⟩
  · rintro ⟨rfl, hfirst, hnearest⟩
    exact ⟨_, inner ++ '}' :: '}' :: after, ⟨by simp [braced], hfirst⟩, _, _,
      ⟨rfl, hnearest⟩, rfl, rfl, rfl⟩

/-- Where no group is found there is none. -/
theorem nextGroup?_eq_none {s : List Char} (h : nextGroup? s = none)
    (skipped inner rest : List Char) : s ≠ skipped ++ braced inner ++ rest := by
  intro hs
  have hopening : s = skipped ++ '{' :: '{' :: (inner ++ '}' :: '}' :: rest) := by
    simp [hs, braced]
  cases hcut : cutPair? '{' s with
  | none =>
    refine not_hasPair_of_cutPair?_eq_none hcut ?_
    exact ⟨skipped, inner ++ '}' :: '}' :: rest, by simp [hopening]⟩
  | some parts =>
    obtain ⟨before, after⟩ := parts
    have hsuffix := suffix_of_cutPair? hcut hopening
    have hclosing : cutPair? '}' after = none := by
      cases hcut' : cutPair? '}' after with
      | none => rfl
      | some parts => simp [nextGroup?, hcut, hcut'] at h
    refine not_hasPair_of_cutPair?_eq_none hclosing ?_
    have hpair : ['}', '}'] <:+: inner ++ '}' :: '}' :: rest := ⟨inner, rest, by simp⟩
    exact hpair.trans hsuffix.isInfix

/-- A text has its groups in one way. -/
theorem Groups.unique {before after : List Char} {groups groups' : List Group}
    (h : Groups before after groups) (h' : Groups before after groups') : groups = groups' := by
  induction h generalizing groups' with
  | nil nowhere =>
    cases h' with
    | nil => rfl
    | cons => exact absurd rfl (nowhere _ _ _)
  | @cons before skipped inner rest groups first nearest others ih =>
    have hnext : nextGroup? (skipped ++ braced inner ++ rest) = some ⟨skipped, inner, rest⟩ :=
      nextGroup?_eq_some_iff.2 ⟨rfl, first, nearest⟩
    generalize hs : skipped ++ braced inner ++ rest = s at h' hnext
    cases h' with
    | nil nowhere => exact absurd hs.symm (nowhere _ _ _)
    | @cons _ skipped' inner' rest' groups' first' nearest' others' =>
      have hnext' : nextGroup? (skipped' ++ braced inner' ++ rest') =
          some ⟨skipped', inner', rest'⟩ := nextGroup?_eq_some_iff.2 ⟨rfl, first', nearest'⟩
      cases hnext.symm.trans hnext'
      rw [ih others']

/-- What stands in front of the groups of a text may be counted as part of it, as long as
no brace opens there. -/
theorem Groups.prepend {before skipped after : List Char} {groups : List Group}
    (hskipped : '{' ∉ skipped) (h : Groups (before ++ skipped) after groups) :
    Groups before (skipped ++ after) groups := by
  cases h with
  | nil nowhere =>
    refine .nil fun skipped' inner rest hs => ?_
    rw [List.append_assoc skipped'] at hs
    rcases List.append_eq_append_iff.1 hs with ⟨more, -, hafter⟩ | ⟨more, hmore, hbraced⟩
    · exact nowhere more inner rest (by simp [hafter])
    · cases more with
      | nil => exact nowhere [] inner rest (by simpa using hbraced.symm)
      | cons d more =>
        -- The group would open within what is skipped.
        have hopening := (List.cons.inj hbraced).1
        exact hskipped (by simp [hmore, ← hopening])
  | @cons _ skipped' inner rest groups first nearest others =>
    have hfirst : ¬HasPair '{' ((skipped ++ skipped') ++ ['{']) := by
      rw [List.append_assoc, hasPair_append_iff_of_notMem hskipped]
      exact first
    have hothers : Groups (before ++ (skipped ++ skipped') ++ braced inner) rest groups := by
      simpa using others
    have hgroups := Groups.cons hfirst nearest hothers
    simpa using hgroups

/-! ## Tags among tokens -/

/-- The tags among tokens that stand behind a text, each with all that stands before and
behind its braces. -/
def tagsBehind (before : List Char) : List Token → List Group
  | [] => []
  | .text value :: tokens => tagsBehind (before ++ value) tokens
  | .tag lead inner trail :: tokens =>
    ⟨before ++ lead, inner, trail ++ tokens.flatMap Token.source⟩ ::
      tagsBehind (before ++ lead ++ braced inner ++ trail) tokens

/-- Text holds no tag. -/
theorem tagsBehind_textTokens (before value : List Char) (tokens : List Token) :
    tagsBehind before (textTokens value ++ tokens) = tagsBehind (before ++ value) tokens := by
  cases value with
  | nil => simp [textTokens]
  | cons c value => rfl

/-- The end of a line holds no brace. -/
theorem notMem_of_blankLineEnd? {s ending rest : List Char}
    (h : blankLineEnd? s = some (ending, rest)) : '{' ∉ ending := by
  have hblanks : '{' ∉ s.takeWhile isIndent := by
    intro hbrace
    exact absurd (List.mem_takeWhile_imp hbrace) (by decide)
  simp only [blankLineEnd?] at h
  split at h <;> cases h <;> simp [hblanks]

/-- The line that a tag takes ends where the rest of it is blank. -/
theorem blankLineEnd?_of_ownLine? {atLineStart : Bool} {g : Group} {ending rest : List Char}
    (h : ownLine? atLineStart g = some (ending, rest)) :
    blankLineEnd? g.after = some (ending, rest) := by
  rw [ownLine?] at h
  split at h
  · exact h
  · cases h

/-- The tags among the tokens of a text are the groups in it that hold a tag, each in its
place. -/
theorem exists_groups_scan (atLineStart : Bool) (before s : List Char) :
    ∃ groups, Groups before s groups ∧ tagsBehind before (scan atLineStart s) =
      groups.filter fun g => isTag (stripChars g.inner) := by
  fun_induction scan atLineStart s generalizing before with
  | case1 _ s hnone =>
    refine ⟨[], .nil (nextGroup?_eq_none hnone), ?_⟩
    have htext := tagsBehind_textTokens before s []
    rwa [List.append_nil] at htext
  | case2 atLineStart s g hnext htag ending rest hline ih =>
    obtain ⟨hs, hfirst, hnearest⟩ := nextGroup?_eq_some_iff.1 hnext
    have hending := blankLineEnd?_of_ownLine? hline
    have hafter := eq_append_of_blankLineEnd? hending
    obtain ⟨groups, hgroups, htags⟩ := ih (before ++ g.before ++ braced g.inner ++ ending)
    -- The next group is searched behind the braces, not behind the line.
    have hothers := hgroups.prepend (notMem_of_blankLineEnd? hending)
    rw [← hafter] at hothers
    refine ⟨⟨before ++ g.before, g.inner, g.after⟩ :: groups, ?_, ?_⟩
    · rw [hs]
      exact .cons hfirst hnearest hothers
    · rw [tagsBehind_textTokens, tagsBehind, source_scan, ← hafter, List.append_assoc before,
        uptoLastLine_append, htags, List.filter_cons, if_pos htag]
  | case3 atLineStart s g hnext htag hline ih =>
    obtain ⟨hs, hfirst, hnearest⟩ := nextGroup?_eq_some_iff.1 hnext
    obtain ⟨groups, hgroups, htags⟩ := ih (before ++ g.before ++ braced g.inner)
    refine ⟨⟨before ++ g.before, g.inner, g.after⟩ :: groups, ?_, ?_⟩
    · rw [hs]
      exact .cons hfirst hnearest hgroups
    · rw [tagsBehind_textTokens, tagsBehind, source_scan, List.append_nil, List.append_nil,
        List.nil_append, htags, List.filter_cons, if_pos htag]
  | case4 atLineStart s g hnext htag ih =>
    obtain ⟨hs, hfirst, hnearest⟩ := nextGroup?_eq_some_iff.1 hnext
    obtain ⟨groups, hgroups, htags⟩ := ih (before ++ g.before ++ braced g.inner)
    refine ⟨⟨before ++ g.before, g.inner, g.after⟩ :: groups, ?_, ?_⟩
    · rw [hs]
      exact .cons hfirst hnearest hgroups
    · rw [tagsBehind, ← List.append_assoc, htags, List.filter_cons,
        if_neg htag]

/-! ## Lines of their own -/

/-- A line begins behind a text: the text is empty or ends with a line feed. -/
def BeginsLine (before : List Char) : Prop :=
  before = [] ∨ before.getLast? = some '\n'

/-- A text consists of spaces and tabs. -/
def Indents (s : List Char) : Prop :=
  ∀ c ∈ s, isIndent c = true

/-- The rest of a line without text, and what follows it: spaces and tabs, and a line feed
that a carriage return may precede, or the end of the source. -/
inductive EndsLine : (ending after : List Char) → Prop
  | lineFeed {blanks after : List Char} (indents : Indents blanks) :
      EndsLine (blanks ++ ['\n']) after
  | returned {blanks after : List Char} (indents : Indents blanks) :
      EndsLine (blanks ++ ['\r', '\n']) after
  | last {blanks : List Char} (indents : Indents blanks) : EndsLine blanks []

/-- A group has a line for itself, between two texts without anything to see. -/
structure OwnLine (g : Group) (lead trail : List Char) : Prop where
  lead : ∃ before, g.before = before ++ lead ∧ BeginsLine before ∧ Indents lead
  trail : ∃ after, g.after = trail ++ after ∧ EndsLine trail after

/-- A line feed is no space and no tab. -/
theorem Indents.notMem_lineFeed {s : List Char} (h : Indents s) : '\n' ∉ s := by
  intro hbreak
  exact absurd (h _ hbreak) (by decide)

/-- Whole lines before a text change nothing about its last line. -/
theorem lastLine_append_of_beginsLine {before : List Char} (h : BeginsLine before)
    (s : List Char) :
    lastLine (before ++ s) = lastLine s ∧
      uptoLastLine (before ++ s) = before ++ uptoLastLine s := by
  have hbreak : ∀ c ∈ before.reverse.head?, decide (c ≠ '\n') = false := by
    intro c hc
    rw [List.head?_reverse] at hc
    rcases h with rfl | hlast
    · cases hc
    · cases hlast.symm.trans hc
      decide
  obtain ⟨htake, hdrop⟩ := takeWhile_dropWhile_append_stop hbreak s.reverse
  rw [lastLine, uptoLastLine, List.reverse_append, htake, hdrop]
  exact ⟨rfl, by simp [uptoLastLine]⟩

/-- Behind the place where a line begins, spaces and tabs are all of the line. -/
theorem lastLine_append {before lead : List Char} (hbefore : BeginsLine before)
    (hlead : Indents lead) :
    lastLine (before ++ lead) = lead ∧ uptoLastLine (before ++ lead) = before := by
  have hrun : ∀ c ∈ lead.reverse, decide (c ≠ '\n') = true := by
    intro c hc
    rw [decide_eq_true_eq]
    rintro rfl
    exact hlead.notMem_lineFeed (List.mem_reverse.1 hc)
  obtain ⟨hlast, hupto⟩ := lastLine_append_of_beginsLine hbefore lead
  constructor
  · rw [hlast, lastLine, List.takeWhile_eq_self_iff.2 hrun, List.reverse_reverse]
  · rw [hupto, uptoLastLine, List.dropWhile_eq_nil_iff.2 hrun, List.reverse_nil, List.append_nil]

/-- A line begins behind the last line feed. -/
theorem beginsLine_uptoLastLine (s : List Char) : BeginsLine (uptoLastLine s) := by
  rw [BeginsLine, uptoLastLine, List.reverse_eq_nil_iff, List.getLast?_reverse]
  cases h : s.reverse.dropWhile (· ≠ '\n') with
  | nil => exact .inl rfl
  | cons c rest =>
    have hc := List.head?_dropWhile_not (fun c : Char => decide (c ≠ '\n')) s.reverse
    rw [h] at hc
    refine .inr ?_
    simpa using hc

/-- The end of a line is found where it is. -/
theorem blankLineEnd?_eq_some_iff {s ending after : List Char} :
    blankLineEnd? s = some (ending, after) ↔ s = ending ++ after ∧ EndsLine ending after := by
  have hindents : Indents (s.takeWhile isIndent) := fun c hc => List.mem_takeWhile_imp hc
  constructor
  · intro h
    refine ⟨eq_append_of_blankLineEnd? h, ?_⟩
    simp only [blankLineEnd?] at h
    split at h
    · cases h; exact .last hindents
    · cases h; exact .lineFeed hindents
    · cases h; exact .returned hindents
    · cases h
  · rintro ⟨rfl, h⟩
    cases h with
    | @lineFeed blanks _ hblanks =>
      have hstop : ∀ c ∈ ('\n' :: after).head?, isIndent c = false := by simp [isIndent]
      obtain ⟨htake, hdrop⟩ := takeWhile_dropWhile_append hblanks hstop
      rw [List.append_assoc, List.singleton_append, blankLineEnd?, htake, hdrop]
      rfl
    | @returned blanks _ hblanks =>
      have hstop : ∀ c ∈ ('\r' :: '\n' :: after).head?, isIndent c = false := by
        simp [isIndent]
      obtain ⟨htake, hdrop⟩ := takeWhile_dropWhile_append hblanks hstop
      rw [List.append_assoc, List.cons_append, List.singleton_append, blankLineEnd?, htake,
        hdrop]
      rfl
    | last hblanks =>
      have hstop : ∀ c ∈ ([] : List Char).head?, isIndent c = false := by simp
      obtain ⟨htake, hdrop⟩ := takeWhile_dropWhile_append hblanks hstop
      rw [blankLineEnd?, htake, hdrop]

/-! ## What is known at a cut -/

/-- What scanning knows of all that it has cut off: a line begins behind it, or it ends with
closing braces. -/
inductive Known : (atLineStart : Bool) → (before : List Char) → Prop
  | line {before : List Char} (begins : BeginsLine before) : Known true before
  | braces {before : List Char} (closes : before.getLast? = some '}') : Known false before

/-- Behind a group there are closing braces. -/
theorem known_braced (before inner : List Char) : Known false (before ++ braced inner) := by
  refine .braces ?_
  rw [braced, ← List.append_assoc, List.getLast?_append]
  rfl

/-- Behind a line that was taken a line begins, if there is one. -/
theorem known_of_endsLine {before ending rest : List Char} (h : EndsLine ending rest)
    (hrest : rest ≠ []) : Known true (before ++ ending) := by
  refine .line (.inr ?_)
  cases h with
  | lineFeed => simp [List.getLast?_append]
  | returned => simp [List.getLast?_append]
  | last => exact absurd rfl hrest

/-- If what stands behind a cut starts its line, the tag behind it has only spaces and tabs
before it on its line, however far back the line begins. -/
theorem exists_lead_of_startsLine {atLineStart : Bool} {before text : List Char}
    (hknown : Known atLineStart before) (h : startsLine atLineStart text = true) :
    BeginsLine (before ++ uptoLastLine text) ∧ Indents (lastLine text) := by
  rw [startsLine, Bool.and_eq_true, List.all_eq_true] at h
  refine ⟨?_, h.1⟩
  by_cases hupto : uptoLastLine text = []
  · rw [hupto, List.append_nil]
    cases hknown with
    | line begins => exact begins
    | braces closes => simp [hupto] at h
  · refine .inr ?_
    rw [List.getLast?_append_of_ne_nil before hupto]
    exact (beginsLine_uptoLastLine text).resolve_left hupto

/-- Where a line begins, scanning knows of it. -/
theorem Known.eq_true_of_beginsLine {atLineStart : Bool} {before : List Char}
    (h : Known atLineStart before) (hbegins : BeginsLine before) : atLineStart = true := by
  cases h with
  | line begins => rfl
  | braces closes =>
    rcases hbegins with rfl | hbreak
    · cases closes
    · cases closes.symm.trans hbreak

/-- A cut is not made behind a space or a tab. -/
theorem Known.not_isIndent {atLineStart : Bool} {before : List Char} {c : Char}
    (h : Known atLineStart before) (hc : before.getLast? = some c) : isIndent c = false := by
  cases h with
  | line begins =>
    rcases begins with rfl | hbreak
    · cases hc
    · cases hc.symm.trans hbreak
      decide
  | braces closes =>
    cases hc.symm.trans closes
    decide

/-- Spaces and tabs behind the place where a line begins start it. -/
theorem startsLine_append {atLineStart : Bool} {begun lead : List Char}
    (hbegins : BeginsLine begun) (hlead : Indents lead) (hknown : begun = [] → atLineStart = true) :
    startsLine atLineStart (begun ++ lead) = true := by
  obtain ⟨hlast, hupto⟩ := lastLine_append hbegins hlead
  rw [startsLine, hlast, hupto, Bool.and_eq_true, List.all_eq_true]
  refine ⟨hlead, ?_⟩
  by_cases hnone : begun = []
  · simp [hknown hnone]
  · simp [hnone]

/-- If a tag has only spaces and tabs before it on its line, then what stands between it and
the cut before it starts the line. -/
theorem startsLine_of_lead {atLineStart : Bool} {before text begun lead : List Char}
    (hknown : Known atLineStart before) (hsplit : before ++ text = begun ++ lead)
    (hbegins : BeginsLine begun) (hlead : Indents lead) : startsLine atLineStart text = true := by
  have hatCut : BeginsLine before → Indents text → startsLine atLineStart text = true := by
    intro hbefore htext
    exact startsLine_append (.inl rfl) htext fun _ => hknown.eq_true_of_beginsLine hbefore
  rcases List.append_eq_append_iff.1 hsplit with ⟨more, hbegun, htext⟩ | ⟨more, hbefore, hmore⟩
  · by_cases hnone : more = []
    · subst hnone
      rw [List.append_nil] at hbegun
      rw [List.nil_append] at htext
      exact hatCut (hbegun ▸ hbegins) (htext ▸ hlead)
    · -- The line begins behind the cut.
      rw [hbegun, BeginsLine, List.getLast?_append_of_ne_nil before hnone] at hbegins
      have hmore : BeginsLine more := .inr (hbegins.resolve_left (by simp [hnone]))
      rw [htext]
      exact startsLine_append hmore hlead fun h => absurd h hnone
  · by_cases hnone : more = []
    · subst hnone
      rw [List.append_nil] at hbefore
      rw [List.nil_append] at hmore
      exact hatCut (hbefore ▸ hbegins) (hmore ▸ hlead)
    · -- The line would begin before the cut, with spaces or tabs on both sides of it.
      have hlast : before.getLast? = some (more.getLast hnone) := by
        rw [hbefore, List.getLast?_append_of_ne_nil begun hnone,
          List.getLast?_eq_some_getLast hnone]
      have hindent : isIndent (more.getLast hnone) = true := by
        refine hlead _ ?_
        rw [hmore]
        exact List.mem_append_left text (List.getLast_mem hnone)
      rw [hknown.not_isIndent hlast] at hindent
      cases hindent

/-- If the tag of a block takes its line at a cut, it has the line for itself in the source. -/
theorem ownLine_of_ownLine? {atLineStart : Bool} {before ending rest : List Char} {g : Group}
    (hknown : Known atLineStart before) (h : ownLine? atLineStart g = some (ending, rest)) :
    isBlockTag (stripChars g.inner) = true ∧
      OwnLine ⟨before ++ g.before, g.inner, g.after⟩ (lastLine g.before) ending := by
  have hending := blankLineEnd?_eq_some_iff.1 (blankLineEnd?_of_ownLine? h)
  rw [ownLine?] at h
  split at h
  · next hcond =>
    obtain ⟨hblock, hstarts⟩ := Bool.and_eq_true_iff.1 hcond
    obtain ⟨hbegins, hlead⟩ := exists_lead_of_startsLine hknown hstarts
    refine ⟨hblock, ⟨_, ?_, hbegins, hlead⟩, rest, hending⟩
    rw [List.append_assoc, uptoLastLine_append]
  · cases h

/-- If the tag of a block takes no line at a cut, it has no line for itself in the source. -/
theorem not_ownLine_of_ownLine? {atLineStart : Bool} {before : List Char} {g : Group}
    (hknown : Known atLineStart before) (h : ownLine? atLineStart g = none)
    (hblock : isBlockTag (stripChars g.inner) = true) (lead trail : List Char) :
    ¬OwnLine ⟨before ++ g.before, g.inner, g.after⟩ lead trail := by
  rintro ⟨⟨begun, hsplit, hbegins, hlead⟩, after, hends⟩
  have hstarts := startsLine_of_lead hknown hsplit hbegins hlead
  rw [ownLine?, hblock, hstarts, blankLineEnd?_eq_some_iff.2 hends] at h
  cases h

/-! ## Tokens in their places -/

/-- What a token covers of a source, between the texts before and behind it.  The tag of a
block covers its line where it has one for itself; every other tag covers its braces. -/
inductive Token.Covers : (before : List Char) → Token → (after : List Char) → Prop
  | text {before value after : List Char} (some : value ≠ []) :
      Covers before (.text value) after
  | hole {before inner after : List Char} (kind : isBlockTag (stripChars inner) = false) :
      Covers before (.tag [] inner []) after
  | wholeLine {before lead inner trail after : List Char}
      (kind : isBlockTag (stripChars inner) = true)
      (own : OwnLine ⟨before ++ lead, inner, trail ++ after⟩ lead trail) :
      Covers before (.tag lead inner trail) after
  | partOfLine {before inner after : List Char} (kind : isBlockTag (stripChars inner) = true)
      (shared : ∀ lead trail, ¬OwnLine ⟨before, inner, after⟩ lead trail) :
      Covers before (.tag [] inner []) after

/-- Tokens behind a text cover what they should, one after the other. -/
inductive CoverAll : (before : List Char) → List Token → Prop
  | nil {before : List Char} : CoverAll before []
  | cons {before : List Char} {token : Token} {tokens : List Token}
      (first : token.Covers before (tokens.flatMap Token.source))
      (others : CoverAll (before ++ token.source) tokens) : CoverAll before (token :: tokens)

/-- Each of the tokens covers what it should. -/
theorem CoverAll.covers {before : List Char} {front back : List Token} {token : Token}
    (h : CoverAll before (front ++ token :: back)) :
    token.Covers (before ++ front.flatMap Token.source) (back.flatMap Token.source) := by
  induction front generalizing before with
  | nil =>
    cases h with
    | cons first others => simpa using first
  | cons head front ih =>
    cases h with
    | cons first others => simpa using ih others

/-- A text, if there is any, covers itself. -/
theorem CoverAll.textTokens {before value : List Char} {tokens : List Token}
    (h : CoverAll (before ++ value) tokens) : CoverAll before (textTokens value ++ tokens) := by
  cases value with
  | nil => simpa [Template.textTokens] using h
  | cons c value => exact .cons (.text (List.cons_ne_nil c value)) h

/-- The tokens of a text cover what they should, if all is known that there is to know at
the cut before it. -/
theorem coverAll_scan {atLineStart : Bool} {before s : List Char}
    (hknown : s ≠ [] → Known atLineStart before) : CoverAll before (scan atLineStart s) := by
  fun_induction scan atLineStart s generalizing before with
  | case1 _ s hnone =>
    have htext : CoverAll before (textTokens s ++ []) := .textTokens .nil
    rwa [List.append_nil] at htext
  | case2 atLineStart s g hnext htag ending rest hline ih =>
    have hsome : s ≠ [] := by
      rintro rfl
      cases hnext
    obtain ⟨hblock, hown⟩ := ownLine_of_ownLine? (hknown hsome) hline
    obtain ⟨hafter, hends⟩ := blankLineEnd?_eq_some_iff.1 (blankLineEnd?_of_ownLine? hline)
    refine .textTokens (.cons (.wholeLine hblock ?_) (ih fun hrest => ?_))
    · rw [List.append_assoc, uptoLastLine_append, source_scan, ← hafter]
      exact hown
    · rw [Token.source, ← List.append_assoc]
      exact known_of_endsLine hends hrest
  | case3 atLineStart s g hnext htag hline ih =>
    have hsome : s ≠ [] := by
      rintro rfl
      cases hnext
    refine .textTokens (.cons ?_ (ih fun _ => ?_))
    · rw [source_scan]
      cases hblock : isBlockTag (stripChars g.inner) with
      | false => exact .hole hblock
      | true => exact .partOfLine hblock (not_ownLine_of_ownLine? (hknown hsome) hline hblock)
    · rw [Token.source, List.append_nil, List.nil_append]
      exact known_braced _ _
  | case4 atLineStart s g hnext htag ih =>
    refine .cons (.text ?_) (ih fun _ => ?_)
    · simp [braced]
    · rw [Token.source, ← List.append_assoc]
      exact known_braced _ _

/-- The tokens of a source, one after the other, cover all of it and nothing twice.  Its
groups of double braces that hold a tag are the tags among them, each in its place.  A text
covers itself, a hole its braces, and the tag of a block its braces with all of its line that
is blank, exactly where the source has nothing but blanks beside it on the line. -/
theorem tokens_cover_source (source : String) :
    (scan true source.toList).flatMap Token.source = source.toList ∧
    (∃ groups, (∀ others, Groups [] source.toList others ↔ others = groups) ∧
      tagsBehind [] (scan true source.toList) =
        groups.filter fun g => isTag (stripChars g.inner)) ∧
    ∀ front token back, scan true source.toList = front ++ token :: back →
      token.Covers (front.flatMap Token.source) (back.flatMap Token.source) := by
  refine ⟨source_scan true source.toList, ?_, ?_⟩
  · obtain ⟨groups, hgroups, htags⟩ := exists_groups_scan true [] source.toList
    refine ⟨groups, fun others => ⟨fun hothers => hothers.unique hgroups, ?_⟩, htags⟩
    rintro rfl
    exact hgroups
  · intro front token back hsplit
    have hstart : Known true [] := .line (.inl rfl)
    have hall : CoverAll [] (scan true source.toList) := coverAll_scan fun _ => hstart
    rw [hsplit] at hall
    exact hall.covers

/-- The end of a block takes its line, the start of the next one does not, since another tag
stands on its line. -/
example : scan true "a
  {{ end }} 
{{ with $x }}{{ $x }}".toList =
    [.text "a
".toList, .tag "  ".toList " end ".toList " 
".toList,
      .tag [] " with $x ".toList [], .tag [] " $x ".toList []] := by
  decide +kernel

end Tweaks.Template
