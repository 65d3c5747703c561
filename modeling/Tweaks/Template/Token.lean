import Tweaks.Text.Blank

/-!
# Template tokens

A template is literal text with tags between double braces.  Scanning cuts it
into tokens: stretches of text, and tags.  A group of double braces that holds
no tag is text.

A tag that opens or closes a block and has a line of its own takes the whole
line with it: the blanks before and behind it and the line break belong to the
tag's token.

Main results:

- `cutPair?_eq_some`, `Group.source_of_nextGroup?`: the next group is found
  without losing a character.
- `scan_of_none`, `scan_of_ownLine`, `scan_of_tag`, `scan_of_not_tag`: what
  scanning makes of the next group.
- `source_scan`: the sources of the tokens, one after another, are the text that
  was scanned.
-/

namespace Tweaks.Template

open Text

/-! ## Groups of double braces -/

/-- Cuts a text at the first place where a mark stands twice: what precedes the
two marks and what follows them. -/
def cutPair? (mark : Char) : List Char → Option (List Char × List Char)
  | [] => none
  | c :: s =>
    if c = mark && s.head? = some mark then some ([], s.tail)
    else (cutPair? mark s).map fun (before, after) => (c :: before, after)

/-- A cut loses nothing but the two marks. -/
theorem cutPair?_eq_some {mark : Char} {s before after : List Char}
    (h : cutPair? mark s = some (before, after)) : s = before ++ mark :: mark :: after := by
  induction s generalizing before with
  | nil => simp [cutPair?] at h
  | cons c s ih =>
    rw [cutPair?] at h
    split at h
    · next hc =>
      simp only [Option.some.injEq, Prod.mk.injEq] at h
      obtain ⟨rfl, rfl⟩ := h
      simp only [Bool.and_eq_true, decide_eq_true_eq] at hc
      obtain ⟨rfl, hs⟩ := hc
      cases s with
      | nil => simp at hs
      | cons d s => simp_all
    · obtain ⟨⟨b, a⟩, hs, heq⟩ := Option.map_eq_some_iff.1 h
      simp only [Prod.mk.injEq] at heq
      obtain ⟨rfl, rfl⟩ := heq
      simp [ih hs]

/-- A text up to its first group of double braces, what the group holds, and
the text behind it. -/
structure Group where
  before : List Char
  inner : List Char
  after : List Char
deriving DecidableEq, Repr

/-- A group between its braces. -/
def braced (inner : List Char) : List Char :=
  '{' :: '{' :: inner ++ ['}', '}']

/-- The first group of a text, closed by the nearest pair of braces. -/
def nextGroup? (s : List Char) : Option Group := do
  let (before, rest) ← cutPair? '{' s
  let (inner, after) ← cutPair? '}' rest
  some ⟨before, inner, after⟩

/-- Text, group and rest make up what was searched. -/
theorem Group.source_of_nextGroup? {s : List Char} {g : Group} (h : nextGroup? s = some g) :
    s = g.before ++ braced g.inner ++ g.after := by
  simp only [nextGroup?, Option.bind_eq_bind, Option.bind_eq_some_iff] at h
  obtain ⟨⟨before, rest⟩, h1, ⟨inner, after⟩, h2, h3⟩ := h
  cases h3
  have h2 : rest = inner ++ '}' :: '}' :: after := cutPair?_eq_some h2
  rw [cutPair?_eq_some h1, h2]
  simp [braced]

/-- What follows a group is shorter than the text it was found in. -/
theorem length_after_lt {s : List Char} {g : Group} (h : nextGroup? s = some g) :
    g.after.length < s.length := by
  rw [Group.source_of_nextGroup? h]
  simp [braced]
  omega

/-! ## Lines of their own -/

/-- The blanks that may stand beside a tag on a line of its own. -/
def isIndent (c : Char) : Bool :=
  c = ' ' || c = '\t'

/-- What follows the last line feed of a text. -/
def lastLine (text : List Char) : List Char :=
  (text.reverse.takeWhile (· ≠ '\n')).reverse

/-- A text up to its last line feed, that included. -/
def uptoLastLine (text : List Char) : List Char :=
  (text.reverse.dropWhile (· ≠ '\n')).reverse

/-- The two parts of a text. -/
theorem uptoLastLine_append (text : List Char) : uptoLastLine text ++ lastLine text = text := by
  rw [uptoLastLine, lastLine, ← List.reverse_append, List.takeWhile_append_dropWhile,
    List.reverse_reverse]

/-- The rest of a line that holds only blanks, its break included, and what
follows.  The end of the text ends its last line. -/
def blankLineEnd? (s : List Char) : Option (List Char × List Char) :=
  let blanks := s.takeWhile isIndent
  match s.dropWhile isIndent with
  | [] => some (blanks, [])
  | '\n' :: rest => some (blanks ++ ['\n'], rest)
  | '\r' :: '\n' :: rest => some (blanks ++ ['\r', '\n'], rest)
  | _ => none

/-- The end of the line and what follows make up the text. -/
theorem eq_append_of_blankLineEnd? {s ending rest : List Char}
    (h : blankLineEnd? s = some (ending, rest)) : s = ending ++ rest := by
  have hs := List.takeWhile_append_dropWhile (p := isIndent) (l := s)
  simp only [blankLineEnd?] at h
  split at h
  · next hd => cases h; rw [hd] at hs; exact hs.symm
  · next hd => cases h; rw [hd] at hs; simp [hs]
  · next hd => cases h; rw [hd] at hs; simp [hs]
  · cases h

/-! ## Tags -/

/-- The first words of the tags that open and close a block. -/
def isBlockTag (expression : List Char) : Bool :=
  let head := firstWord expression
  head = "with".toList || head = "end".toList

/-- Whether what stands between double braces is a tag: a parameter, a dot, or
the start or end of a block. -/
def isTag (expression : List Char) : Bool :=
  match expression with
  | [] => false
  | c :: _ => c = '$' || c = '.' || isBlockTag expression

/-- A piece of a template.  A tag's token covers the braces with what they hold
and the blanks and the break that the tag takes from its line. -/
inductive Token where
  | text (value : List Char)
  | tag (lead inner trail : List Char)
deriving DecidableEq, Repr

/-- The characters a token covers. -/
def Token.source : Token → List Char
  | .text value => value
  | .tag lead inner trail => lead ++ braced inner ++ trail

/-- A tag's expression, without the blanks around it. -/
def Token.expression? : Token → Option (List Char)
  | .text _ => none
  | .tag _ inner _ => some (stripChars inner)

/-- A text as a token, if there is any. -/
def textTokens (value : List Char) : List Token :=
  if value.isEmpty then [] else [.text value]

/-- Whether a tag behind the given text is the first thing on its line. -/
def startsLine (atLineStart : Bool) (before : List Char) : Bool :=
  (lastLine before).all isIndent && (!(uptoLastLine before).isEmpty || atLineStart)

/-- The end of the line of a block's tag, when the tag has the line for itself. -/
def ownLine? (atLineStart : Bool) (g : Group) : Option (List Char × List Char) :=
  if isBlockTag (stripChars g.inner) && startsLine atLineStart g.before then
    blankLineEnd? g.after
  else none

/-- What is left behind a line is at most as long as what followed the tag. -/
theorem length_of_ownLine? {atLineStart : Bool} {g : Group} {ending rest : List Char}
    (h : ownLine? atLineStart g = some (ending, rest)) : rest.length ≤ g.after.length := by
  simp only [ownLine?] at h
  split at h
  · rw [eq_append_of_blankLineEnd? h]; simp
  · cases h

/-- The tokens of a text.  `atLineStart` says whether a whole line was taken
just before it, or nothing precedes it at all. -/
def scan (atLineStart : Bool) (s : List Char) : List Token :=
  match _h : nextGroup? s with
  | none => textTokens s
  | some g =>
    if isTag (stripChars g.inner) then
      match _h' : ownLine? atLineStart g with
      | some (ending, rest) =>
        textTokens (uptoLastLine g.before) ++
          .tag (lastLine g.before) g.inner ending :: scan true rest
      | none => textTokens g.before ++ .tag [] g.inner [] :: scan false g.after
    else .text (g.before ++ braced g.inner) :: scan false g.after
termination_by s.length
decreasing_by
  · have := length_after_lt _h
    have := length_of_ownLine? _h'
    omega
  · exact length_after_lt _h
  · exact length_after_lt _h

/-- A text without groups is all text. -/
theorem scan_of_none {atLineStart : Bool} {s : List Char} (h : nextGroup? s = none) :
    scan atLineStart s = textTokens s := by
  rw [scan]
  split
  · rfl
  · simp_all

/-- A tag that has its line for itself takes the line. -/
theorem scan_of_ownLine {atLineStart : Bool} {s : List Char} {g : Group}
    (h : nextGroup? s = some g) (htag : isTag (stripChars g.inner) = true)
    {ending rest : List Char} (hline : ownLine? atLineStart g = some (ending, rest)) :
    scan atLineStart s =
      textTokens (uptoLastLine g.before) ++
        .tag (lastLine g.before) g.inner ending :: scan true rest := by
  rw [scan]
  split
  · simp_all
  · next g' hg' =>
    cases h.symm.trans hg'
    rw [if_pos htag]
    split <;> simp_all

/-- A tag that has no line for itself stands between texts. -/
theorem scan_of_tag {atLineStart : Bool} {s : List Char} {g : Group}
    (h : nextGroup? s = some g) (htag : isTag (stripChars g.inner) = true)
    (hline : ownLine? atLineStart g = none) :
    scan atLineStart s = textTokens g.before ++ .tag [] g.inner [] :: scan false g.after := by
  rw [scan]
  split
  · simp_all
  · next g' hg' =>
    cases h.symm.trans hg'
    rw [if_pos htag]
    split <;> simp_all

/-- A group that holds no tag is text. -/
theorem scan_of_not_tag {atLineStart : Bool} {s : List Char} {g : Group}
    (h : nextGroup? s = some g) (htag : isTag (stripChars g.inner) = false) :
    scan atLineStart s = .text (g.before ++ braced g.inner) :: scan false g.after := by
  rw [scan]
  split
  · simp_all
  · next g' hg' =>
    cases h.symm.trans hg'
    rw [if_neg (by simp [htag])]

/-- A text's token, if any, covers the text. -/
theorem source_textTokens (value : List Char) :
    (textTokens value).flatMap Token.source = value := by
  cases value <;> simp [textTokens, Token.source]

/-- The sources of the tokens, one after another, are the text that was scanned. -/
theorem source_scan (atLineStart : Bool) (s : List Char) :
    (scan atLineStart s).flatMap Token.source = s := by
  fun_induction scan atLineStart s with
  | case1 _ s h => exact source_textTokens s
  | case2 atLineStart s g h ht ending rest hl ih =>
    have hend : blankLineEnd? g.after = some (ending, rest) := by
      simp only [ownLine?] at hl
      split at hl
      · exact hl
      · cases hl
    have hs := Group.source_of_nextGroup? h
    rw [eq_append_of_blankLineEnd? hend] at hs
    rw [← uptoLastLine_append g.before] at hs
    rw [hs]
    simp [source_textTokens, Token.source, ih]
  | case3 atLineStart s g h ht hl ih =>
    rw [Group.source_of_nextGroup? h]
    simp [source_textTokens, Token.source, ih]
  | case4 atLineStart s g h ht ih =>
    rw [Group.source_of_nextGroup? h]
    simp [Token.source, ih]

end Tweaks.Template
