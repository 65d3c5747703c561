import Mathlib.Data.List.Forall2
import Tweaks.Assembly.Standard
import Tweaks.Pipe
import Tweaks.Proofs.Loading

/-!
# Banners around fragments

The usual banner adds lines around the text of a fragment: comments, a command that says the
title, and a comment again.  The lines of a script are followed here together with whether a
banner added them.  Without the added ones the script is the one without banners, for any title.

A title stands in a comment and in the command as it is.  So if it has several lines, the others
stand by themselves, and are neither a comment nor the command unless they start like one.

Main results:

- `Text.flatMap_lines`, `Text.lines_append_left`, `Text.lines_append_right`: lines of texts.
- `Assembly.lines_textOf`, `Assembly.textOf_scriptRows`, `Assembly.textOf_own_scriptRows`: a
  script as lines, with and without those that banners add.
- `Assembly.shows_scriptRows`: the texts of the fragments among the lines.
- `Assembly.announces_fragmentRows_iff`: what starts the lines that a banner adds.
- `Assembly.banners_only_announce_iff`: the lines that banners add, and what is left without
  them; `Assembly.line_of_title_stands_alone` is a title of two lines.
-/

namespace Tweaks

/-! ## Lines -/

namespace Text

/-- The lines of a text, which end in line feeds. -/
def lines (s : List Char) : List (List Char) :=
  s.splitOn '\n'

@[simp]
theorem lines_nil : lines [] = [[]] := rfl

/-- A line feed starts a line, and all other characters go to the first one. -/
theorem lines_cons (c : Char) (s : List Char) :
    lines (c :: s) = if c = '\n' then [] :: lines s else (lines s).modifyHead (c :: ·) := by
  unfold lines
  rw [List.splitOn_eq_splitOnP, List.splitOnP_cons_eq_if_modifyHead]
  simp only [beq_iff_eq, List.splitOn_eq_splitOnP]

/-- There is a first line. -/
theorem exists_lines_eq (s : List Char) : ∃ first others, lines s = first :: others :=
  List.exists_cons_of_ne_nil (List.splitOnP_ne_nil _ s)

/-- No line holds a line feed. -/
theorem not_mem_of_mem_lines {s line : List Char} (h : line ∈ lines s) : '\n' ∉ line := by
  induction s generalizing line with
  | nil =>
    rw [lines_nil, List.mem_singleton] at h
    simp [h]
  | cons c s ih =>
    obtain ⟨first, others, hs⟩ := exists_lines_eq s
    rw [hs] at ih
    rw [lines_cons, hs] at h
    split at h
    · rcases List.mem_cons.1 h with rfl | h
      · exact List.not_mem_nil
      · exact ih h
    · next hc =>
      rcases List.mem_cons.1 h with rfl | h
      · have hfirst := ih List.mem_cons_self
        simp [Ne.symm hc, hfirst]
      · exact ih (List.mem_cons_of_mem first h)

/-- The lines make up the text again. -/
theorem flatMap_lines (s : List Char) : (lines s).flatMap (· ++ ['\n']) = s ++ ['\n'] := by
  induction s with
  | nil => rfl
  | cons c s ih =>
    obtain ⟨first, others, hs⟩ := exists_lines_eq s
    rw [hs, List.flatMap_cons] at ih
    rw [lines_cons, hs]
    split
    · next hc => rw [List.flatMap_cons, List.flatMap_cons, ih, hc]; rfl
    · rw [List.modifyHead_cons, List.flatMap_cons, List.cons_append, List.cons_append, ih]
      rfl

/-- What is put before a text goes to its first line, if it is on one line itself. -/
theorem lines_append_left {before : List Char} (h : '\n' ∉ before) (s : List Char) :
    lines (before ++ s) = (lines s).modifyHead (before ++ ·) := by
  obtain ⟨first, others, hs⟩ := exists_lines_eq s
  induction before with
  | nil => rw [List.nil_append, hs]; rfl
  | cons c before ih =>
    rw [List.mem_cons, not_or] at h
    rw [List.cons_append, lines_cons, if_neg (Ne.symm h.1), ih h.2, hs]
    rfl

/-- What is put behind a text goes to its last line, if it is on one line itself. -/
theorem lines_append_right {behind : List Char} (h : '\n' ∉ behind) (s : List Char) :
    List.Forall₂ (· <+: ·) (lines s) (lines (s ++ behind)) := by
  induction s with
  | nil =>
    have hone := lines_append_left h []
    rw [List.append_nil] at hone
    rw [List.nil_append, hone]
    exact .cons List.nil_prefix .nil
  | cons c s ih =>
    rw [List.cons_append, lines_cons, lines_cons]
    split
    · exact .cons List.prefix_rfl ih
    · obtain ⟨first, others, hs⟩ := exists_lines_eq s
      obtain ⟨first', others', hs'⟩ := exists_lines_eq (s ++ behind)
      rw [hs, hs'] at ih ⊢
      cases ih with
      | cons hfirst hothers =>
        exact .cons ((List.prefix_cons_inj c).2 hfirst) hothers

/-- Where lines are prefixes of others, each of those has a prefix. -/
theorem exists_prefix_of_mem {starts whole : List (List Char)}
    (h : List.Forall₂ (· <+: ·) starts whole) {line : List Char} (hline : line ∈ whole) :
    ∃ start ∈ starts, start <+: line := by
  induction h with
  | nil => cases hline
  | cons hfirst _ ih =>
    rcases List.mem_cons.1 hline with rfl | hline
    · exact ⟨_, List.mem_cons_self, hfirst⟩
    · obtain ⟨start, hstart, hsub⟩ := ih hline
      exact ⟨start, List.mem_cons_of_mem _ hstart, hsub⟩

end Text

namespace Assembly

open Text (lines)

/-! ## Rows -/

/-- A line of a script, and whether a banner added it. -/
structure Row where
  added : Bool
  line : List Char
  single : '\n' ∉ line

/-- The blank line between two parts of a script. -/
def Row.blank : Row := ⟨false, [], List.not_mem_nil⟩

/-- The lines of a text. -/
def rowsOf (added : Bool) (s : String) : List Row :=
  (lines s.toList).pmap (Row.mk added) fun _ h => Text.not_mem_of_mem_lines h

/-- The text that consists of lines. -/
def textOf (rows : List Row) : List Char :=
  (rows.map Row.line).flatMap (· ++ ['\n'])

/-- The lines that no banner added. -/
def own (rows : List Row) : List Row :=
  rows.filter fun row => !row.added

/-- The lines of a text, as lines. -/
@[simp]
theorem map_line_rowsOf (added : Bool) (s : String) :
    (rowsOf added s).map Row.line = lines s.toList := by
  rw [rowsOf, List.map_pmap, List.pmap_eq_map, List.map_id']

/-- All lines of a text come from the same place. -/
theorem added_of_mem_rowsOf {added : Bool} {s : String} {row : Row} (h : row ∈ rowsOf added s) :
    row.added = added := by
  obtain ⟨line, hline, rfl⟩ := List.mem_pmap.1 h
  rfl

@[simp]
theorem textOf_append (rows others : List Row) :
    textOf (rows ++ others) = textOf rows ++ textOf others := by
  rw [textOf, List.map_append, List.flatMap_append]
  rfl

@[simp]
theorem textOf_rowsOf (added : Bool) (s : String) :
    textOf (rowsOf added s) = s.toList ++ ['\n'] := by
  rw [textOf, map_line_rowsOf, Text.flatMap_lines]

@[simp]
theorem own_append (rows others : List Row) : own (rows ++ others) = own rows ++ own others :=
  List.filter_append rows others

/-- The lines of a text that consists of lines are these, and an empty one at its end. -/
theorem lines_textOf (rows : List Row) : lines (textOf rows) = rows.map Row.line ++ [[]] := by
  induction rows with
  | nil => rfl
  | cons row rows ih =>
    have htext : textOf (row :: rows) = row.line ++ '\n' :: textOf rows := by
      simp [textOf]
    rw [htext, Text.lines_append_left row.single, Text.lines_cons, if_pos rfl, ih,
      List.modifyHead_cons, List.append_nil]
    rfl

/-- Lines that no banner added stay. -/
theorem own_eq_self {rows : List Row} (h : ∀ row ∈ rows, row.added = false) : own rows = rows := by
  apply List.filter_eq_self.2
  intro row hrow
  rw [h row hrow]
  rfl

/-- Lines that a banner added do not stay. -/
theorem own_eq_nil {rows : List Row} (h : ∀ row ∈ rows, row.added = true) : own rows = [] := by
  apply List.filter_eq_nil_iff.2
  intro row hrow
  rw [h row hrow]
  decide

/-! ## Fragments -/

/-- The lines of the usual banner above the text of a fragment with a title. -/
def rowsAbove (mark title : String) : List Row :=
  (bannerHead mark title).flatMap (rowsOf true)

/-- The lines of a fragment with the usual banner. -/
def fragmentRows (mark : String) (f : Fragment) : List Row :=
  rowsAbove mark f.title ++ rowsOf false f.text ++ rowsOf true (ruleLine mark "")

/-- All lines above the text of a fragment are added. -/
theorem added_of_mem_rowsAbove {mark title : String} {row : Row} (h : row ∈ rowsAbove mark title) :
    row.added = true := by
  obtain ⟨s, -, hrow⟩ := List.mem_flatMap.1 h
  exact added_of_mem_rowsOf hrow

/-- The lines of a fragment make up its text with the usual banner. -/
theorem textOf_fragmentRows (mark : String) (f : Fragment) :
    textOf (fragmentRows mark f) = (standardText mark f).toList ++ ['\n'] := by
  have habove : textOf (rowsAbove mark f.title) =
      (Text.join "\n" (bannerHead mark f.title)).toList ++ ['\n'] := by
    simp [rowsAbove, bannerHead, Text.join, Text.joinWith]
  rw [fragmentRows, textOf_append, textOf_append, habove, textOf_rowsOf, textOf_rowsOf,
    toList_standardText]
  simp

/-- Without the added lines the text of a fragment is left. -/
theorem own_fragmentRows (mark : String) (f : Fragment) :
    own (fragmentRows mark f) = rowsOf false f.text := by
  have habove : own (rowsAbove mark f.title) = [] :=
    own_eq_nil fun _ h => added_of_mem_rowsAbove h
  have htext : own (rowsOf false f.text) = rowsOf false f.text :=
    own_eq_self fun _ h => added_of_mem_rowsOf h
  have hbelow : own (rowsOf true (ruleLine mark "")) = [] :=
    own_eq_nil fun _ h => added_of_mem_rowsOf h
  rw [fragmentRows, own_append, own_append, habove, htext, hbelow, List.nil_append,
    List.append_nil]

/-! ## Scripts -/

/-- Parts one blank line apart.  Without any part there is a blank line. -/
def stack : List (List Row) → List Row
  | [] => [.blank]
  | part :: parts => part ++ parts.flatMap (.blank :: ·)

/-- The lines of a script with the usual banner. -/
def scriptRows (mark header footer : String) (fragments : List Fragment) : List Row :=
  stack ((framePart header).map (rowsOf false) ++ fragments.map (fragmentRows mark) ++
    (framePart footer).map (rowsOf false))

/-- A part before others. -/
theorem stack_cons_cons (part next : List Row) (parts : List (List Row)) :
    stack (part :: next :: parts) = part ++ [.blank] ++ stack (next :: parts) := by
  simp [stack]

/-- Added lines are in the parts. -/
theorem mem_stack_iff {parts : List (List Row)} {row : Row} (h : row.added = true) :
    row ∈ stack parts ↔ ∃ part ∈ parts, row ∈ part := by
  have hblank : row ≠ .blank := by
    rintro rfl
    cases h
  cases parts with
  | nil => simp [stack, hblank]
  | cons part parts => simp [stack, hblank]

/-- No line of a header or a footer is added. -/
theorem added_of_mem_framePart {text : String} :
    ∀ part ∈ (framePart text).map (rowsOf false), ∀ row ∈ part, row.added = false := by
  intro part hpart row hrow
  obtain ⟨s, -, rfl⟩ := List.mem_map.1 hpart
  exact added_of_mem_rowsOf hrow

/-- Added lines are in the fragments. -/
theorem mem_scriptRows_iff {mark header footer : String} {fragments : List Fragment} {row : Row}
    (h : row.added = true) :
    row ∈ scriptRows mark header footer fragments ↔ ∃ f ∈ fragments, row ∈ fragmentRows mark f := by
  have hframe (text : String) : ∀ part ∈ (framePart text).map (rowsOf false), row ∉ part := by
    intro part hpart hrow
    rw [added_of_mem_framePart part hpart row hrow] at h
    cases h
  unfold scriptRows
  rw [mem_stack_iff h]
  constructor
  · rintro ⟨part, hpart, hrow⟩
    simp only [List.mem_append] at hpart
    rcases hpart with (hpart | hpart) | hpart
    · exact absurd hrow (hframe header part hpart)
    · obtain ⟨f, hf, rfl⟩ := List.mem_map.1 hpart
      exact ⟨f, hf, hrow⟩
    · exact absurd hrow (hframe footer part hpart)
  · rintro ⟨f, hf, hrow⟩
    refine ⟨fragmentRows mark f, ?_, hrow⟩
    rw [List.mem_append, List.mem_append]
    exact .inl (.inr (List.mem_map_of_mem hf))

/-- The text of parts one blank line apart. -/
theorem textOf_stack {parts : List (List Row)} {pieces : List (List Char)}
    (h : List.Forall₂ (fun part piece => textOf part = piece ++ ['\n']) parts pieces) :
    textOf (stack parts) = Text.joinWith ['\n', '\n'] pieces ++ ['\n'] := by
  have hblank : textOf [.blank] = ['\n'] := rfl
  induction h with
  | nil => exact hblank
  | cons hpart hparts ih =>
    cases hparts with
    | nil => simpa [stack] using hpart
    | cons _ _ =>
      rw [stack_cons_cons, textOf_append, textOf_append, hpart, hblank, ih,
        Text.joinWith_cons_cons]
      simp

/-- Without the added lines the parts are without theirs. -/
theorem own_stack (parts : List (List Row)) : own (stack parts) = stack (parts.map own) := by
  have hblank : own [.blank] = [.blank] := rfl
  induction parts with
  | nil => exact hblank
  | cons part parts ih =>
    cases parts with
    | nil => simp [stack]
    | cons next parts =>
      rw [stack_cons_cons, own_append, own_append, hblank, ih]
      simp only [List.map_cons, stack_cons_cons]

/-- Parts that are the lines of texts. -/
theorem forall₂_textOf {α : Type} {rows : α → List Row} {text : α → String}
    (h : ∀ a, textOf (rows a) = (text a).toList ++ ['\n']) (items : List α) :
    List.Forall₂ (fun part piece => textOf part = piece ++ ['\n']) (items.map rows)
      ((items.map text).map String.toList) := by
  rw [List.map_map, List.forall₂_map_left_iff, List.forall₂_map_right_iff]
  exact List.forall₂_same.2 fun a _ => h a

/-- The lines of a script make up its text. -/
theorem textOf_scriptRows (mark header footer : String) (fragments : List Fragment) :
    textOf (scriptRows mark header footer fragments) =
      (usualScript (some mark) header footer fragments).toList := by
  have hframe (text : String) := forall₂_textOf (textOf_rowsOf false) (framePart text)
  have hfragments := forall₂_textOf (textOf_fragmentRows mark) fragments
  simp only [List.map_id'] at hframe
  rw [scriptRows, usualScript, toList_parts, List.map_append, List.map_append]
  exact textOf_stack (List.rel_append (List.rel_append (hframe header) hfragments) (hframe footer))

/-- Without the added lines the fragments' own texts are left, as without banners. -/
theorem textOf_own_scriptRows (mark header footer : String) (fragments : List Fragment) :
    textOf (own (scriptRows mark header footer fragments)) =
      (usualScript none header footer fragments).toList := by
  have hrows (s : String) : own (rowsOf false s) = rowsOf false s :=
    own_eq_self fun _ h => added_of_mem_rowsOf h
  have hown : own (scriptRows mark header footer fragments) =
      stack ((framePart header ++ fragments.map Fragment.text ++ framePart footer).map
        (rowsOf false)) := by
    rw [scriptRows, own_stack]
    simp [Function.comp_def, hrows, own_fragmentRows]
  have hparts := forall₂_textOf (textOf_rowsOf false)
    (framePart header ++ fragments.map Fragment.text ++ framePart footer)
  rw [List.map_id'] at hparts
  rw [hown, textOf_stack hparts, usualScript, toList_parts]
  rfl

/-! ## What is shown -/

/-- Lines show the texts of fragments: each as it is, on lines of its own between lines that a
banner added, and in order.  No banner added any other line. -/
inductive Shows : List Row → List Fragment → Prop
  | done {rows : List Row} (plain : ∀ row ∈ rows, row.added = false) : Shows rows []
  | next {before above below rest : List Row} {f : Fragment} {fragments : List Fragment}
      (plain : ∀ row ∈ before, row.added = false) (head : ∀ row ∈ above, row.added = true)
      (foot : ∀ row ∈ below, row.added = true) (others : Shows rest fragments) :
      Shows (before ++ (above ++ rowsOf false f.text ++ below) ++ rest) (f :: fragments)

/-- Other lines may stand before. -/
theorem Shows.append_left {before rows : List Row} {fragments : List Fragment}
    (hplain : ∀ row ∈ before, row.added = false) (h : Shows rows fragments) :
    Shows (before ++ rows) fragments := by
  have hboth {others : List Row} (hothers : ∀ row ∈ others, row.added = false) :
      ∀ row ∈ before ++ others, row.added = false := by
    intro row hrow
    exact (List.mem_append.1 hrow).elim (hplain row) (hothers row)
  cases h with
  | done plain => exact .done (hboth plain)
  | next plain head foot others =>
    rw [← List.append_assoc, ← List.append_assoc]
    exact .next (hboth plain) head foot others

/-- Parts without added lines, each below a blank line. -/
theorem added_of_mem_below {parts : List (List Row)}
    (h : ∀ part ∈ parts, ∀ row ∈ part, row.added = false) :
    ∀ row ∈ parts.flatMap (.blank :: ·), row.added = false := by
  intro row hrow
  obtain ⟨part, hpart, hrow⟩ := List.mem_flatMap.1 hrow
  rcases List.mem_cons.1 hrow with rfl | hrow
  · rfl
  · exact h part hpart row hrow

/-- Fragments, each below a blank line, and then other parts. -/
theorem shows_below (mark : String) (fragments : List Fragment) {parts : List (List Row)}
    (h : ∀ part ∈ parts, ∀ row ∈ part, row.added = false) :
    Shows ((fragments.map (fragmentRows mark) ++ parts).flatMap (.blank :: ·)) fragments := by
  induction fragments with
  | nil => exact .done (added_of_mem_below h)
  | cons f fragments ih =>
    have hblank : ∀ row ∈ [Row.blank], row.added = false := by
      intro row hrow
      rw [List.mem_singleton.1 hrow]
      rfl
    have hrows : (((f :: fragments).map (fragmentRows mark) ++ parts).flatMap (.blank :: ·)) =
        [.blank] ++ fragmentRows mark f ++
          (fragments.map (fragmentRows mark) ++ parts).flatMap (.blank :: ·) := by
      rw [List.map_cons, List.cons_append, List.flatMap_cons, List.singleton_append]
    rw [hrows]
    exact .next hblank (fun _ h => added_of_mem_rowsAbove h) (fun _ h => added_of_mem_rowsOf h) ih

/-- The lines of a script show the texts of its fragments. -/
theorem shows_scriptRows (mark header footer : String) (fragments : List Fragment) :
    Shows (scriptRows mark header footer fragments) fragments := by
  have hbelow (fragments : List Fragment) :=
    shows_below mark fragments (@added_of_mem_framePart footer)
  unfold scriptRows
  rw [List.append_assoc]
  cases hheader : (framePart header).map (rowsOf false) with
  | cons part parts =>
    have hparts := @added_of_mem_framePart header
    rw [hheader, List.forall_mem_cons] at hparts
    rw [List.cons_append, stack, List.flatMap_append]
    exact ((hbelow fragments).append_left (added_of_mem_below hparts.2)).append_left hparts.1
  | nil =>
    cases fragments with
    | cons f fragments =>
      rw [List.nil_append, List.map_cons, List.cons_append, stack,
        ← List.nil_append (fragmentRows mark f)]
      exact .next (fun _ h => absurd h List.not_mem_nil) (fun _ h => added_of_mem_rowsAbove h)
        (fun _ h => added_of_mem_rowsOf h) (hbelow fragments)
    | nil =>
      refine .done fun row hrow => Bool.eq_false_iff.2 fun hadded => ?_
      obtain ⟨part, hpart, hmem⟩ := (mem_stack_iff hadded).1 hrow
      rw [added_of_mem_framePart part hpart row hmem] at hadded
      cases hadded

/-! ## What added lines start with -/

/-- A line is a comment, or a command that says something. -/
def Announces (mark : String) (line : List Char) : Prop :=
  mark.toList <+: line ∨ "echo --- ".toList <+: line

instance (mark : String) : DecidablePred (Announces mark) := fun line =>
  inferInstanceAs (Decidable (mark.toList <+: line ∨ "echo --- ".toList <+: line))

/-- What a line starts with decides. -/
theorem Announces.of_start {mark : String} {line line' : List Char} (h : Announces mark line)
    (hsub : line <+: line') : Announces mark line' :=
  h.imp (·.trans hsub) (·.trans hsub)

/-- Besides the mark and the text a comment with a rule has a blank and two runs of dashes. -/
theorem exists_ruleLine_eq (mark s : String) :
    ∃ k m, (ruleLine mark s).toList = mark.toList ++ ' ' :: List.replicate k '-' ++
      (s.toList ++ List.replicate m '-') := by
  refine ⟨(Text.usualWidth - s.toList.length) / 2,
    Text.usualWidth - s.toList.length - (Text.usualWidth - s.toList.length) / 2, ?_⟩
  simp [ruleLine, Text.rule, Text.ruleChars]

/-- A text in a comment with a rule: its first line is a comment, and each other line of the
comment starts like one of the text. -/
theorem announces_ruleLine {mark s : String} (hmark : '\n' ∉ mark.toList)
    (h : ∀ line ∈ (lines s.toList).tail, Announces mark line) :
    ∀ line ∈ lines (ruleLine mark s).toList, Announces mark line := by
  obtain ⟨k, m, hrule⟩ := exists_ruleLine_eq mark s
  have hdashes (n : Nat) : '\n' ∉ List.replicate n '-' := fun h =>
    absurd (List.eq_of_mem_replicate h) (by decide)
  obtain ⟨first, others, hs⟩ := Text.exists_lines_eq s.toList
  obtain ⟨first', others', hs'⟩ :=
    Text.exists_lines_eq (s.toList ++ List.replicate m '-')
  have hwider := Text.lines_append_right (hdashes m) s.toList
  have hbefore : '\n' ∉ mark.toList ++ ' ' :: List.replicate k '-' := by
    simp [hmark, hdashes]
  rw [hs] at h
  rw [hs, hs', List.forall₂_cons] at hwider
  rw [hrule, Text.lines_append_left hbefore, hs', List.modifyHead_cons, List.forall_mem_cons]
  constructor
  · exact .inl ⟨' ' :: List.replicate k '-' ++ first', by simp⟩
  · intro line hline
    obtain ⟨start, hstart, hsub⟩ := Text.exists_prefix_of_mem hwider.2 hline
    exact (h start hstart).of_start hsub

/-- What holds of the lines of a text. -/
theorem forall_mem_rowsOf {p : List Char → Prop} {added : Bool} {s : String} :
    (∀ row ∈ rowsOf added s, p row.line) ↔ ∀ line ∈ lines s.toList, p line := by
  rw [← map_line_rowsOf added, List.forall_mem_map]

/-- The lines that a banner adds are comments or the command exactly if the lines of the title
but the first are. -/
theorem announces_fragmentRows_iff {mark : String} (hmark : '\n' ∉ mark.toList) (f : Fragment) :
    (∀ row ∈ fragmentRows mark f, row.added = true → Announces mark row.line) ↔
      ∀ line ∈ (lines f.title.toList).tail, Announces mark line := by
  obtain ⟨first, others, htitle⟩ := Text.exists_lines_eq f.title.toList
  have hecho : lines ("echo --- " ++ f.title).toList = ("echo --- ".toList ++ first) :: others := by
    rw [String.toList_append, Text.lines_append_left (by decide), htitle, List.modifyHead_cons]
  rw [htitle, List.tail_cons]
  constructor
  · intro h line hline
    have hrows : ∀ row ∈ rowsOf true ("echo --- " ++ f.title), Announces mark row.line := by
      intro row hrow
      refine h row ?_ (added_of_mem_rowsOf hrow)
      simp [fragmentRows, rowsAbove, bannerHead, hrow]
    rw [forall_mem_rowsOf, hecho] at hrows
    exact hrows line (List.mem_cons_of_mem _ hline)
  · intro h row hrow hadded
    have hempty : ∀ row ∈ rowsOf true (ruleLine mark ""), Announces mark row.line :=
      forall_mem_rowsOf.2 (announces_ruleLine hmark (by simp))
    have hruled : ∀ row ∈ rowsOf true (ruleLine mark f.title), Announces mark row.line :=
      forall_mem_rowsOf.2 (announces_ruleLine hmark (by rwa [htitle]))
    have hsaid : ∀ row ∈ rowsOf true ("echo --- " ++ f.title), Announces mark row.line := by
      rw [forall_mem_rowsOf, hecho, List.forall_mem_cons]
      exact ⟨.inr (List.prefix_append _ _), h⟩
    simp only [fragmentRows, rowsAbove, bannerHead, List.flatMap_cons, List.flatMap_nil,
      List.append_nil, List.mem_append] at hrow
    rcases hrow with ((hrow | hrow | hrow | hrow) | hrow) | hrow
    · exact hempty row hrow
    · exact hruled row hrow
    · exact hempty row hrow
    · exact hsaid row hrow
    · rw [added_of_mem_rowsOf hrow] at hadded
      cases hadded
    · exact hempty row hrow

/-- The lines of the command that says a fragment's title are lines of the script. -/
theorem mem_lines_of_command {fragments : List Fragment} {f : Fragment} (hf : f ∈ fragments)
    {line : List Char} (hline : line ∈ lines ("echo --- " ++ f.title).toList)
    (mark header footer : String) :
    line ∈ lines (textOf (scriptRows mark header footer fragments)) := by
  rw [← map_line_rowsOf true] at hline
  obtain ⟨row, hrow, rfl⟩ := List.mem_map.1 hline
  have hfragment : row ∈ fragmentRows mark f := by
    simp [fragmentRows, rowsAbove, bannerHead, hrow]
  have hscript : row ∈ scriptRows mark header footer fragments :=
    (mem_scriptRows_iff (added_of_mem_rowsOf hrow)).2 ⟨f, hf, hfragment⟩
  rw [lines_textOf]
  exact List.mem_append_left _ (List.mem_map_of_mem hscript)

/-- A script with the usual banner. -/
theorem assemble_standard {mark : String} (hsome : mark ≠ "") (header footer : String)
    (fragments : List Fragment) :
    assemble (Style.standard (some mark) "\n") header footer fragments =
      .ok (String.ofList (textOf (scriptRows mark header footer fragments))) := by
  have hcomment : (Style.standard (some mark) "\n").comment = some mark := by
    simp [Style.standard, hsome]
  rw [assemble_usual (.inr rfl), hcomment, textOf_scriptRows, String.ofList_toList]
  exact congrArg Except.ok (withLineEnding_lineFeed _)

/-- With the usual banner a script consists of lines that show the texts of its fragments, and
without the added lines it is the script without banners.  These are comments or commands that
say a title exactly if all lines of the titles that are not the first start like that. -/
theorem banners_only_announce_iff {mark : String} (hsome : mark ≠ "")
    (hmark : '\n' ∉ mark.toList) (header footer : String) (fragments : List Fragment) :
    ∃ rows,
      assemble (Style.standard (some mark) "\n") header footer fragments =
        .ok (String.ofList (textOf rows)) ∧
      assemble (Style.standard none "\n") header footer fragments =
        .ok (String.ofList (textOf (own rows))) ∧
      Shows rows fragments ∧
      ((∀ row ∈ rows, row.added = true → Announces mark row.line) ↔
        ∀ f ∈ fragments, ∀ line ∈ (lines f.title.toList).tail, Announces mark line) := by
  refine ⟨scriptRows mark header footer fragments,
    assemble_standard hsome header footer fragments, ?_,
    shows_scriptRows mark header footer fragments, ?_⟩
  · rw [assemble_plain, textOf_own_scriptRows, String.ofList_toList]
    rfl
  · constructor
    · intro h f hf
      refine (announces_fragmentRows_iff hmark f).1 fun row hrow hadded => ?_
      exact h row ((mem_scriptRows_iff hadded).2 ⟨f, hf, hrow⟩) hadded
    · intro h row hrow hadded
      obtain ⟨f, hf, hmem⟩ := (mem_scriptRows_iff hadded).1 hrow
      exact (announces_fragmentRows_iff hmark f).2 (h f hf) row hmem hadded

/-- The two fragments of the sample have titles of one line. -/
theorem sample_banners_only_announce :
    Compilation.compile sample Pipe.standard (.everything .forward) =
      .ok [⟨"Clear history", "clear", none, .forward⟩,
        ⟨"Stop service", "stop", some "start", .forward⟩] ∧
    ∃ rows,
      assemble (Style.standard (some "#") "\n") "#!/bin/sh" ""
        [⟨"Clear history", "clear", none, .forward⟩,
          ⟨"Stop service", "stop", some "start", .forward⟩] =
        .ok (String.ofList (textOf rows)) ∧
      assemble (Style.standard none "\n") "#!/bin/sh" ""
        [⟨"Clear history", "clear", none, .forward⟩,
          ⟨"Stop service", "stop", some "start", .forward⟩] =
        .ok (String.ofList (textOf (own rows))) ∧
      Shows rows
        [⟨"Clear history", "clear", none, .forward⟩,
          ⟨"Stop service", "stop", some "start", .forward⟩] ∧
      ∀ row ∈ rows, row.added = true → Announces "#" row.line := by
  have hfragments : Compilation.compile sample Pipe.standard (.everything .forward) =
      .ok [⟨"Clear history", "clear", none, .forward⟩,
        ⟨"Stop service", "stop", some "start", .forward⟩] := by decide +kernel
  obtain ⟨rows, hscript, hplain, hshows, hannounces⟩ := banners_only_announce_iff
    (by decide : "#" ≠ "") (by decide) "#!/bin/sh" ""
    [⟨"Clear history", "clear", none, .forward⟩, ⟨"Stop service", "stop", some "start", .forward⟩]
  exact ⟨hfragments, rows, hscript, hplain, hshows, hannounces.2 (by decide)⟩

/-- A document with a script that has a name. -/
def titledDocument (name : String) : Document :=
  .mapping
    [(.text "os", .text "linux"),
      (.text "actions", .list
        [.mapping [(.text "category", .text "Main"), (.text "children", .list
          [.mapping [(.text "name", .text name), (.text "code", .text "x")]])]])]

/-- The collection of `titledDocument`. -/
def titledCollection (name : String) : Collection where
  os := .linux
  scripting := none
  actions := [⟨"Main", [], .script ⟨name, some "x", none, [], none, []⟩ .empty⟩]
  functions := []

/-- A name may have two lines.  The second one then stands alone in the script, below the command
that says the first one, and would be run. -/
theorem line_of_title_stands_alone :
    Collection.ofDocument (titledDocument "a\nb") = .ok (titledCollection "a\nb") ∧
    Compilation.compile (titledCollection "a\nb") Pipe.standard (.everything .forward) =
      .ok [⟨"a\nb", "x", none, .forward⟩] ∧
    assemble (Style.standard none "\n") "" "" [⟨"a\nb", "x", none, .forward⟩] = .ok "x\n" ∧
    ∃ script,
      assemble (Style.standard (some "#") "\n") "" "" [⟨"a\nb", "x", none, .forward⟩] =
        .ok script ∧
      "b".toList ∈ lines script.toList ∧ "b".toList ∉ lines "x\n".toList ∧
      ¬Announces "#" "b".toList := by
  have hscript := assemble_standard (by decide : "#" ≠ "") "" "" [⟨"a\nb", "x", none, .forward⟩]
  have hline : "b".toList ∈ lines
      ("echo --- " ++ Fragment.title ⟨"a\nb", "x", none, .forward⟩).toList := by decide
  refine ⟨by decide +kernel, by decide, by decide, _, hscript, ?_, by decide,
    by decide⟩
  rw [String.toList_ofList]
  exact mem_lines_of_command List.mem_cons_self hline "#" "" ""

end Assembly

end Tweaks
