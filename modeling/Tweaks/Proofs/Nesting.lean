import Mathlib.Data.List.Forall2
import Mathlib.Data.List.TakeWhile
import Tweaks.Template.Parse

/-!
# Tags and the blocks they nest

A parameter is a dollar sign with a name; the dot stands alone; behind either there may
be pipes.  A block starts with a word, a gap and a parameter, and ends with a word.
Reading an expression takes a name or a pipe as far as its characters go.  Since no pipe
starts with a character of a name, nothing else could be meant.

A source is a template where all its tags are spelled right and nest: counting the open
blocks, no end and no dot comes where none is open, and in the end none is left.  The
template then has the tokens of the source as its pieces, in order.

Main results:

- `nextPipe?_of_spelled`, `exists_of_nextPipe?`, `pipes?_eq_some_iff`: pipes are read as
  they are spelled.
- `pieces_injective`: a template is determined by its pieces.
- `exists_step`, `exists_error_of_not_takes`: what one tag does.
- `exists_build_of_nested`, `nested_of_build`: what all tokens do.
- `parse_eq_ok_iff`, `parses_exactly_nested_tags`: which sources are templates, and which
  templates they are.
-/

namespace Tweaks.Template

open Text

/-- A text consists of blanks. -/
def Blanks (s : List Char) : Prop :=
  ∀ c ∈ s, isBlank c = true

/-- A text may name a parameter: one or more characters of names. -/
structure IsName (s : List Char) : Prop where
  ne_nil : s ≠ []
  all : ∀ c ∈ s, isNameChar c = true

/-- The spelling of any number of pipes: for each a bar, which blanks may surround, and
a letter with letters and digits behind it. -/
inductive SpellsPipes : List Char → List String → Prop
  | nil : SpellsPipes [] []
  | cons {before after word rest : List Char} {first : Char} {pipes : List String}
      (before_blank : Blanks before) (after_blank : Blanks after)
      (letter : first.isAlpha = true) (word_alphanum : ∀ c ∈ word, c.isAlphanum = true)
      (others : SpellsPipes rest pipes) :
      SpellsPipes (before ++ '|' :: (after ++ first :: (word ++ rest)))
        (String.ofList (first :: word) :: pipes)

/-- The spelling of a tag, without blanks around it. -/
inductive Spells : List Char → Tag → Prop
  | parameter {name rest : List Char} {pipes : List String} (named : IsName name)
      (piped : SpellsPipes rest pipes) :
      Spells ('$' :: (name ++ rest)) (.parameter (String.ofList name) pipes)
  | dot {rest : List Char} {pipes : List String} (piped : SpellsPipes rest pipes) :
      Spells ('.' :: rest) (.dot pipes)
  | opening {gap name : List Char} (gap_ne_nil : gap ≠ []) (gap_blank : Blanks gap)
      (named : IsName name) :
      Spells ("with".toList ++ (gap ++ '$' :: name)) (.opening (String.ofList name))
  | closing : Spells "end".toList .closing

/-! ## Characters -/

/-- A letter or digit is not blank. -/
theorem not_isBlank_of_isAlphanum {c : Char} (h : c.isAlphanum = true) : isBlank c = false := by
  have hletters : (c.isUpper || c.isLower || c.isDigit) = true := h
  have hupper : c.isUpper = decide ('A'.val ≤ c.val ∧ c.val ≤ 'Z'.val) := rfl
  have hlower : c.isLower = (decide ('a'.val ≤ c.val) && decide (c.val ≤ 'z'.val)) := rfl
  have hdigit : c.isDigit = (decide ('0'.val ≤ c.val) && decide (c.val ≤ '9'.val)) := rfl
  simp only [hupper, hlower, hdigit, Bool.or_eq_true, Bool.and_eq_true, decide_eq_true_eq,
    UInt32.le_iff_toNat_le] at hletters
  change (65 ≤ c.toNat ∧ c.toNat ≤ 90 ∨ 97 ≤ c.toNat ∧ c.toNat ≤ 122) ∨
    48 ≤ c.toNat ∧ c.toNat ≤ 57 at hletters
  simp only [isBlank, Bool.or_eq_false_iff, Bool.and_eq_false_iff, decide_eq_false_iff_not]
  omega

/-- A letter is a letter or digit. -/
theorem isAlphanum_of_isAlpha {c : Char} (h : c.isAlpha = true) : c.isAlphanum = true := by
  simp [Char.isAlphanum, h]

/-- A blank is no character of a name. -/
theorem not_isNameChar_of_isBlank {c : Char} (h : isBlank c = true) : isNameChar c = false := by
  rw [isNameChar, Bool.or_eq_false_iff]
  constructor
  · cases halphanum : c.isAlphanum with
    | false => rfl
    | true =>
      rw [not_isBlank_of_isAlphanum halphanum] at h
      cases h
  · rw [decide_eq_false_iff_not]
    rintro rfl
    exact absurd h (by decide)

/-- A name is not blank. -/
theorem IsName.not_isBlank {s : List Char} (h : IsName s) : ∀ c ∈ s, isBlank c = false := by
  intro c hc
  cases hblank : isBlank c with
  | false => rfl
  | true =>
    have hname := h.all c hc
    rw [not_isNameChar_of_isBlank hblank] at hname
    cases hname

/-- Blanks before a text are dropped with those it starts with. -/
theorem dropBlank_append {gap s : List Char} (h : Blanks gap) :
    dropBlank (gap ++ s) = dropBlank s :=
  List.dropWhile_append_of_pos h

/-- A text is the blanks it starts with and the rest. -/
theorem exists_dropBlank (s : List Char) : ∃ gap, Blanks gap ∧ s = gap ++ dropBlank s := by
  refine ⟨s.takeWhile isBlank, ?_, (List.takeWhile_append_dropWhile).symm⟩
  intro c hc
  exact List.mem_takeWhile_imp hc

/-- What spells pipes does not start with a character of a name. -/
theorem SpellsPipes.head_not_isNameChar {s : List Char} {pipes : List String}
    (h : SpellsPipes s pipes) : ∀ c ∈ s.head?, isNameChar c = false := by
  cases h with
  | nil => simp
  | @cons before after word rest first pipes before_blank =>
    intro c hc
    cases before with
    | nil =>
      rw [List.nil_append, List.head?_cons, Option.mem_some_iff] at hc
      rw [← hc]
      decide
    | cons d before =>
      rw [List.cons_append, List.head?_cons, Option.mem_some_iff] at hc
      rw [← hc]
      exact not_isNameChar_of_isBlank (before_blank d List.mem_cons_self)

/-! ## Pipes -/

/-- A pipe is read as it is spelled, if no letter or digit follows. -/
theorem nextPipe?_of_spelled {before after word rest : List Char} {first : Char}
    (hbefore : Blanks before) (hafter : Blanks after) (hfirst : first.isAlpha = true)
    (hword : ∀ c ∈ word, c.isAlphanum = true) (hrest : ∀ c ∈ rest.head?, c.isAlphanum = false) :
    nextPipe? (before ++ '|' :: (after ++ first :: (word ++ rest))) =
      some (String.ofList (first :: word), rest) := by
  have hbar : dropBlank (before ++ '|' :: (after ++ first :: (word ++ rest))) =
      '|' :: (after ++ first :: (word ++ rest)) := by
    rw [dropBlank_append hbefore]
    exact dropBlank_cons_of_not_blank (by decide)
  have hletter : dropBlank (after ++ first :: (word ++ rest)) = first :: (word ++ rest) := by
    rw [dropBlank_append hafter]
    exact dropBlank_cons_of_not_blank
      (not_isBlank_of_isAlphanum (isAlphanum_of_isAlpha hfirst))
  obtain ⟨htake, hdrop⟩ := takeWhile_dropWhile_append hword hrest
  simp only [nextPipe?, hbar, hletter, hfirst, htake, hdrop, ↓reduceIte]

/-- What is read as a pipe spells it. -/
theorem exists_of_nextPipe? {s rest : List Char} {pipe : String}
    (h : nextPipe? s = some (pipe, rest)) :
    ∃ before after word first, Blanks before ∧ Blanks after ∧ first.isAlpha = true ∧
      (∀ c ∈ word, c.isAlphanum = true) ∧ pipe = String.ofList (first :: word) ∧
      s = before ++ '|' :: (after ++ first :: (word ++ rest)) := by
  obtain ⟨before, hbefore, hs⟩ := exists_dropBlank s
  simp only [nextPipe?] at h
  split at h
  · next t ht =>
    obtain ⟨after, hafter, hafterText⟩ := exists_dropBlank t
    split at h
    · next c u hu =>
      split at h
      · next hc =>
        cases h
        refine ⟨before, after, u.takeWhile Char.isAlphanum, c, hbefore, hafter, hc, ?_, rfl, ?_⟩
        · intro d hd
          exact List.mem_takeWhile_imp hd
        · rw [List.takeWhile_append_dropWhile, ← hu, ← hafterText, ← ht]
          exact hs
      · cases h
    · cases h
  · cases h

/-- Pipes are read exactly as they are spelled. -/
theorem pipes?_eq_some_iff {s : List Char} {pipes : List String} :
    pipes? s = some pipes ↔ SpellsPipes s pipes := by
  constructor
  · intro h
    fun_induction pipes? s generalizing pipes with
    | case1 s hs =>
      cases h
      rw [List.isEmpty_iff.1 hs]
      exact .nil
    | case2 s hs hnext => cases h
    | case3 s hs pipe rest hnext ih =>
      obtain ⟨others, hothers, rfl⟩ := Option.map_eq_some_iff.1 h
      obtain ⟨before, after, word, first, hbefore, hafter, hfirst, hword, rfl, rfl⟩ :=
        exists_of_nextPipe? hnext
      exact .cons hbefore hafter hfirst hword (ih hothers)
  · intro h
    induction h with
    | nil => rw [pipes?]; rfl
    | @cons before after word rest first pipes hbefore hafter hfirst hword hothers ih =>
      have hrest : ∀ c ∈ rest.head?, c.isAlphanum = false := by
        intro c hc
        have hname := hothers.head_not_isNameChar c hc
        rw [isNameChar, Bool.or_eq_false_iff] at hname
        exact hname.1
      have hnext := nextPipe?_of_spelled hbefore hafter hfirst hword hrest
      have hempty :
          (before ++ '|' :: (after ++ first :: (word ++ rest))).isEmpty = false := by
        cases before <;> rfl
      rw [pipes?, hempty]
      split
      · next hcond => cases hcond
      · split
        · next hnone => rw [hnext] at hnone; cases hnone
        · next pipe rest' hsome =>
          rw [hnext] at hsome
          cases hsome
          rw [ih]
          rfl

/-! ## Tags -/

/-- What is read as a name is one, and what follows it starts with no character of a
name. -/
theorem exists_of_takeName? {s rest : List Char} {name : String}
    (h : takeName? s = some (name, rest)) :
    ∃ chars, IsName chars ∧ name = String.ofList chars ∧ s = chars ++ rest := by
  rw [takeName?] at h
  split at h
  · cases h
  · next hne =>
    cases h
    refine ⟨s.takeWhile isNameChar, ⟨hne, ?_⟩, rfl, List.takeWhile_append_dropWhile.symm⟩
    intro c hc
    exact List.mem_takeWhile_imp hc

/-- A name before the end of the text is read whole. -/
theorem IsName.takeName? {name : List Char} (h : IsName name) :
    takeName? name = some (String.ofList name, []) := by
  have hname : Template.takeName? (name ++ []) = some (String.ofList name, []) :=
    takeName_append h.ne_nil h.all (by simp)
  rwa [List.append_nil] at hname

/-- What spells a tag is read as that tag. -/
theorem Spells.ofExpression? {expression : List Char} {tag : Tag} (h : Spells expression tag) :
    Tag.ofExpression? expression = some tag := by
  cases h with
  | parameter named piped =>
    have hname := takeName_append named.ne_nil named.all piped.head_not_isNameChar
    have hpipes := pipes?_eq_some_iff.2 piped
    simp [Tag.ofExpression?, hname, hpipes]
  | dot piped =>
    have hpipes := pipes?_eq_some_iff.2 piped
    simp [Tag.ofExpression?, hpipes]
  | @opening gap name gap_ne_nil gap_blank named =>
    obtain ⟨c, gap, rfl⟩ := List.exists_cons_of_ne_nil gap_ne_nil
    have hc : isBlank c = true := gap_blank c List.mem_cons_self
    have hdrop : dropBlank (c :: gap ++ '$' :: name) = '$' :: name := by
      rw [dropBlank_append gap_blank]
      exact dropBlank_cons_of_not_blank (by decide)
    have hname := named.takeName?
    have hword := dropExpected?_append "with".toList (c :: gap ++ '$' :: name)
    simp_all [Tag.ofExpression?]
  | closing => decide

/-- What is read as a tag spells it. -/
theorem spells_of_ofExpression? {expression : List Char} {tag : Tag}
    (h : Tag.ofExpression? expression = some tag) : Spells expression tag := by
  unfold Tag.ofExpression? at h
  split at h
  · next s =>
    simp only [Option.bind_eq_bind, Option.bind_eq_some_iff] at h
    obtain ⟨⟨name, rest⟩, hname, pipes, hpipes, h⟩ := h
    cases h
    obtain ⟨chars, hchars, rfl, rfl⟩ := exists_of_takeName? hname
    exact .parameter hchars (pipes?_eq_some_iff.1 hpipes)
  · next s =>
    obtain ⟨pipes, hpipes, rfl⟩ := Option.map_eq_some_iff.1 h
    exact .dot (pipes?_eq_some_iff.1 hpipes)
  · split at h
    · next hend =>
      cases h
      rw [hend]
      exact .closing
    · simp only [Option.bind_eq_bind, Option.bind_eq_some_iff] at h
      obtain ⟨s, hword, h⟩ := h
      rw [eq_append_of_dropExpected? hword]
      split at h
      · cases h
      · next c t =>
        split at h
        · next hc =>
          obtain ⟨gap, hgap, hs⟩ := exists_dropBlank (c :: t)
          split at h
          · next u hu =>
            split at h
            · next name hname =>
              cases h
              obtain ⟨chars, hchars, rfl, rfl⟩ := exists_of_takeName? hname
              rw [hs, hu, List.append_nil]
              refine .opening ?_ hgap hchars
              rintro rfl
              -- Without a gap the text would start with the dollar sign, which is not blank.
              rw [List.nil_append, hu] at hs
              cases hs
              exact absurd hc (by decide)
            · cases h
          · cases h
        · cases h

/-! ## Pieces -/

/-- A piece of a template: literal text, or a tag. -/
inductive Piece where
  | text (value : String)
  | tag (tag : Tag)
deriving DecidableEq, Repr

/-- The tag of a hole: a parameter, or the dot where no name is given. -/
def holeTag : Option String → List String → Tag
  | none, pipes => .dot pipes
  | some name, pipes => .parameter name pipes

/-- Different holes have different tags. -/
theorem holeTag_injective {name name' : Option String} {pipes pipes' : List String}
    (h : holeTag name pipes = holeTag name' pipes') : name = name' ∧ pipes = pipes' := by
  cases name <;> cases name' <;> simp_all [holeTag]

/-- The tag of a hole starts no block. -/
theorem holeTag_ne_opening (name : Option String) (pipes : List String) (block : String) :
    holeTag name pipes ≠ .opening block := by
  cases name <;> simp [holeTag]

/-- The tag of a hole ends no block. -/
theorem holeTag_ne_closing (name : Option String) (pipes : List String) :
    holeTag name pipes ≠ .closing := by
  cases name <;> simp [holeTag]

/-- The pieces of a template, in order.  A block is its start, its body and its end. -/
def pieces : Template → List Piece
  | done => []
  | text value rest => .text value :: rest.pieces
  | hole name pipes rest => .tag (holeTag name pipes) :: rest.pieces
  | block name body rest =>
    .tag (.opening name) :: (body.pieces ++ .tag .closing :: rest.pieces)

/-- A sequence has the pieces of its parts. -/
@[simp]
theorem pieces_append (s t : Template) : (s ++ t).pieces = s.pieces ++ t.pieces := by
  induction s with
  | done => rfl
  | text _ _ ih => simp [pieces, ih]
  | hole _ _ _ ih => simp [pieces, ih]
  | block _ _ _ _ ih => simp [pieces, ih]

/-- No piece of a template starts there: the pieces are over, or a block's end follows. -/
def EndsHere (following : List Piece) : Prop :=
  ∀ piece ∈ following.head?, piece = .tag .closing

/-- Where no piece of a template starts there is none. -/
theorem eq_done_of_endsHere {t : Template} {after following : List Piece}
    (hends : EndsHere following) (h : t.pieces ++ after = following) : t = done := by
  subst h
  cases t with
  | done => rfl
  | text value rest => exact absurd (hends _ rfl) (by simp)
  | hole name pipes rest =>
    have htag := hends _ rfl
    rw [Piece.tag.injEq] at htag
    exact absurd htag (holeTag_ne_closing name pipes)
  | block name body rest => exact absurd (hends _ rfl) (by simp)

/-- Two templates that go on alike, up to where they end, are the same. -/
theorem pieces_append_inj {s t : Template} {after after' : List Piece} (hafter : EndsHere after)
    (hafter' : EndsHere after') (h : s.pieces ++ after = t.pieces ++ after') :
    s = t ∧ after = after' := by
  induction s generalizing t after after' with
  | done =>
    cases eq_done_of_endsHere hafter h.symm
    exact ⟨rfl, h⟩
  | text value rest ih =>
    cases t with
    | done => cases eq_done_of_endsHere hafter' h
    | text value' rest' =>
      obtain ⟨hvalue, hrest⟩ := List.cons.inj h
      cases hvalue
      obtain ⟨rfl, rfl⟩ := ih hafter hafter' hrest
      exact ⟨rfl, rfl⟩
    | hole name' pipes' rest' => cases (List.cons.inj h).1
    | block name' body' rest' => cases (List.cons.inj h).1
  | hole name pipes rest ih =>
    cases t with
    | done => cases eq_done_of_endsHere hafter' h
    | text value' rest' => cases (List.cons.inj h).1
    | hole name' pipes' rest' =>
      obtain ⟨htag, hrest⟩ := List.cons.inj h
      obtain ⟨rfl, rfl⟩ := holeTag_injective (Piece.tag.inj htag)
      obtain ⟨rfl, rfl⟩ := ih hafter hafter' hrest
      exact ⟨rfl, rfl⟩
    | block name' body' rest' =>
      exact absurd (Piece.tag.inj (List.cons.inj h).1) (holeTag_ne_opening _ _ _)
  | block name body rest ihBody ihRest =>
    cases t with
    | done => cases eq_done_of_endsHere hafter' h
    | text value' rest' => cases (List.cons.inj h).1
    | hole name' pipes' rest' =>
      exact absurd (Piece.tag.inj (List.cons.inj h).1).symm (holeTag_ne_opening _ _ _)
    | block name' body' rest' =>
      simp only [pieces, List.cons_append, List.append_assoc, List.cons.injEq, Piece.tag.injEq,
        Tag.opening.injEq] at h
      obtain ⟨rfl, hbody⟩ := h
      -- The bodies end alike, each at the end of its block.
      obtain ⟨rfl, hend⟩ := ihBody (by simp [EndsHere]) (by simp [EndsHere]) hbody
      obtain ⟨rfl, rfl⟩ := ihRest hafter hafter' (List.cons.inj hend).2
      exact ⟨rfl, rfl⟩

/-- A template is determined by its pieces. -/
theorem pieces_injective {s t : Template} (h : s.pieces = t.pieces) : s = t := by
  have hempty : EndsHere [] := by simp [EndsHere]
  refine (pieces_append_inj hempty hempty ?_).1
  rw [h]

/-! ## Nested tags -/

/-- The number of open blocks before and behind a tag.  A dot and a block's end need one. -/
inductive Tag.Takes : Tag → (depth behind : Nat) → Prop
  | parameter (name : String) (pipes : List String) (depth : Nat) :
      Tag.Takes (.parameter name pipes) depth depth
  | dot (pipes : List String) (depth : Nat) : Tag.Takes (.dot pipes) (depth + 1) (depth + 1)
  | opening (name : String) (depth : Nat) : Tag.Takes (.opening name) depth (depth + 1)
  | closing (depth : Nat) : Tag.Takes .closing (depth + 1) depth

/-- Expressions, behind a number of open blocks, are tags that nest: each is spelled as a
tag and may stand there, and in the end no block is open. -/
inductive Nested : (depth : Nat) → List (List Char) → Prop
  | nil : Nested 0 []
  | cons {depth behind : Nat} {expression : List Char} {rest : List (List Char)} {tag : Tag}
      (spelled : Spells expression tag) (takes : tag.Takes depth behind)
      (others : Nested behind rest) : Nested depth (expression :: rest)

/-- The first of some expressions that nest is a tag that may stand there. -/
theorem Nested.exists_of_cons {depth : Nat} {expression : List Char} {rest : List (List Char)}
    (h : Nested depth (expression :: rest)) :
    ∃ tag behind, Spells expression tag ∧ tag.Takes depth behind ∧ Nested behind rest := by
  cases h with
  | cons spelled takes others => exact ⟨_, _, spelled, takes, others⟩

/-- The expressions between the braces of a source, in order. -/
def expressions (source : String) : List (List Char) :=
  (scan true source.toList).filterMap Token.expression?

/-- A token is read as a piece: text as it is, and a tag as it is spelled. -/
inductive Token.Reads : Token → Piece → Prop
  | text (value : List Char) : Token.Reads (.text value) (.text (String.ofList value))
  | tag {lead inner trail : List Char} {tag : Tag} (spelled : Spells (stripChars inner) tag) :
      Token.Reads (.tag lead inner trail) (.tag tag)

/-- A token is read in one way. -/
theorem Token.reads_rightUnique : Relator.RightUnique Token.Reads := by
  intro token piece piece' h h'
  cases h with
  | text value => cases h'; rfl
  | tag spelled =>
    cases h' with
    | tag spelled' =>
      have hsame := spelled.ofExpression?
      rw [spelled'.ofExpression?, Option.some.injEq] at hsame
      rw [hsame]

/-! ## Building the template -/

/-- What was read so far, inside the open blocks: what precedes each of them, its start,
and what was read of the innermost. -/
def piecesRead : List OpenBlock → Template → List Piece
  | [], read => read.pieces
  | innermost :: blocks, read =>
    piecesRead blocks innermost.before ++ .tag (.opening innermost.name) :: read.pieces

/-- What is read further joins the innermost block. -/
theorem piecesRead_append (blocks : List OpenBlock) (read more : Template) :
    piecesRead blocks (read ++ more) = piecesRead blocks read ++ more.pieces := by
  cases blocks <;> simp [piecesRead]

/-- A tag that may stand there is one piece more, and leaves as many blocks open as it
says. -/
theorem exists_step {inner : List Char} {tag : Tag}
    (htag : Tag.ofExpression? (stripChars inner) = some tag) {blocks : List OpenBlock}
    {behind : Nat} (htakes : tag.Takes blocks.length behind) (read : Template) :
    ∃ blocks' read', blocks'.length = behind ∧
      piecesRead blocks' read' = piecesRead blocks read ++ [.tag tag] ∧
      ∀ lead trail tokens,
        build (.tag lead inner trail :: tokens) blocks read = build tokens blocks' read' := by
  cases tag with
  | parameter name pipes =>
    cases htakes
    refine ⟨blocks, read ++ .hole (some name) pipes .done, rfl, piecesRead_append _ _ _, ?_⟩
    intro lead trail tokens
    simp [build, htag]
  | dot pipes =>
    cases blocks with
    | nil => cases htakes
    | cons innermost blocks =>
      cases htakes
      refine ⟨innermost :: blocks, read ++ .hole none pipes .done, rfl,
        piecesRead_append _ _ _, ?_⟩
      intro lead trail tokens
      simp [build, htag]
  | opening name =>
    cases htakes
    refine ⟨⟨name, read⟩ :: blocks, .done, rfl, rfl, ?_⟩
    intro lead trail tokens
    exact build_opening htag lead trail tokens blocks read
  | closing =>
    cases blocks with
    | nil => cases htakes
    | cons innermost blocks =>
      cases htakes
      refine ⟨blocks, innermost.before ++ .block innermost.name read .done, rfl, ?_, ?_⟩
      · rw [piecesRead_append, piecesRead]
        simp [pieces]
      · intro lead trail tokens
        exact build_closing htag lead trail tokens innermost blocks read

/-- A tag that may not stand there is the end. -/
theorem exists_error_of_not_takes {inner : List Char} {tag : Tag}
    (htag : Tag.ofExpression? (stripChars inner) = some tag) {blocks : List OpenBlock}
    (htakes : ∀ behind, ¬tag.Takes blocks.length behind) (lead trail : List Char)
    (tokens : List Token) (read : Template) :
    ∃ e, build (.tag lead inner trail :: tokens) blocks read = .error e := by
  cases tag with
  | parameter name pipes => exact absurd (.parameter name pipes _) (htakes _)
  | opening name => exact absurd (.opening name _) (htakes _)
  | dot pipes =>
    cases blocks with
    | nil => exact ⟨.dotOutsideBlock, by simp [build, htag]⟩
    | cons innermost blocks => exact absurd (.dot pipes _) (htakes _)
  | closing =>
    cases blocks with
    | nil => exact ⟨.endWithoutBlock, by simp [build, htag]⟩
    | cons innermost blocks => exact absurd (.closing _) (htakes _)

/-- Tokens whose tags nest make up a template. -/
theorem exists_build_of_nested {tokens : List Token} (blocks : List OpenBlock) (read : Template)
    (h : Nested blocks.length (tokens.filterMap Token.expression?)) :
    ∃ t, build tokens blocks read = .ok t := by
  induction tokens generalizing blocks read with
  | nil =>
    cases blocks with
    | nil => exact ⟨read, rfl⟩
    | cons innermost blocks => cases h
  | cons token tokens ih =>
    cases token with
    | text value => exact ih blocks _ h
    | tag lead inner trail =>
      obtain ⟨tag, behind, hspelled, htakes, hothers⟩ := h.exists_of_cons
      obtain ⟨blocks', read', rfl, -, hbuild⟩ := exists_step hspelled.ofExpression? htakes read
      rw [hbuild]
      exact ih blocks' read' hothers

/-- Tokens that make up a template nest their tags, and are the pieces behind those read
before. -/
theorem nested_of_build {tokens : List Token} {blocks : List OpenBlock} {read t : Template}
    (h : build tokens blocks read = .ok t) :
    Nested blocks.length (tokens.filterMap Token.expression?) ∧
      ∃ more, List.Forall₂ Token.Reads tokens more ∧ t.pieces = piecesRead blocks read ++ more := by
  induction tokens generalizing blocks read with
  | nil =>
    cases blocks with
    | nil => cases h; exact ⟨.nil, [], .nil, (List.append_nil _).symm⟩
    | cons innermost blocks => cases h
  | cons token tokens ih =>
    cases token with
    | text value =>
      obtain ⟨hnested, more, hmore, hpieces⟩ := ih h
      refine ⟨hnested, .text (String.ofList value) :: more, .cons (.text value) hmore, ?_⟩
      rw [hpieces, piecesRead_append]
      simp [pieces]
    | tag lead inner trail =>
      cases htag : Tag.ofExpression? (stripChars inner) with
      | none => simp [build, htag] at h
      | some tag =>
        have hspelled := spells_of_ofExpression? htag
        by_cases htakes : ∃ behind, tag.Takes blocks.length behind
        · obtain ⟨behind, htakes⟩ := htakes
          obtain ⟨blocks', read', rfl, hread, hbuild⟩ := exists_step htag htakes read
          rw [hbuild] at h
          obtain ⟨hnested, more, hmore, hpieces⟩ := ih h
          refine ⟨.cons hspelled htakes hnested, .tag tag :: more, .cons (.tag hspelled) hmore, ?_⟩
          rw [hpieces, hread]
          simp
        · obtain ⟨e, he⟩ :=
            exists_error_of_not_takes htag (not_exists.1 htakes) lead trail tokens read
          rw [he] at h
          cases h

/-- Tokens are the pieces of the template that they make up. -/
theorem reads_of_build {tokens : List Token} {t : Template} (h : build tokens [] .done = .ok t) :
    List.Forall₂ Token.Reads tokens t.pieces := by
  obtain ⟨-, more, hmore, hpieces⟩ := nested_of_build h
  rw [piecesRead, pieces, List.nil_append] at hpieces
  rwa [hpieces]

/-- Tokens are the pieces of one template at most. -/
theorem eq_of_reads {tokens : List Token} {s t : Template}
    (hs : List.Forall₂ Token.Reads tokens s.pieces)
    (ht : List.Forall₂ Token.Reads tokens t.pieces) : s = t :=
  pieces_injective (List.right_unique_forall₂' Token.reads_rightUnique hs ht)

/-- A source reads as a template exactly where its tags nest and its tokens are the pieces
of the template. -/
theorem parse_eq_ok_iff {source : String} {t : Template} :
    parse source = .ok t ↔
      Nested 0 (expressions source) ∧
        List.Forall₂ Token.Reads (scan true source.toList) t.pieces := by
  constructor
  · intro h
    exact ⟨(nested_of_build h).1, reads_of_build h⟩
  · rintro ⟨hnested, hreads⟩
    obtain ⟨t', ht'⟩ := exists_build_of_nested [] .done hnested
    rw [parse, ht', eq_of_reads (reads_of_build ht') hreads]

/-- Reading a source gives a template exactly where its tags nest, and else an error.  The
template is the one whose pieces, block for block with their starts and ends, are the
tokens of the source in order, each tag with its name and pipes. -/
theorem parses_exactly_nested_tags (source : String) :
    ((∃ t, parse source = .ok t) ↔ Nested 0 (expressions source)) ∧
    ((∃ e, parse source = .error e) ↔ ¬Nested 0 (expressions source)) ∧
    ∀ t, parse source = .ok t ↔
      Nested 0 (expressions source) ∧
        List.Forall₂ Token.Reads (scan true source.toList) t.pieces := by
  have hok : (∃ t, parse source = .ok t) ↔ Nested 0 (expressions source) := by
    constructor
    · rintro ⟨t, ht⟩
      exact (parse_eq_ok_iff.1 ht).1
    · intro hnested
      exact exists_build_of_nested [] .done hnested
  refine ⟨hok, ?_, fun t => parse_eq_ok_iff⟩
  rw [← hok]
  cases parse source with
  | ok t => simp
  | error e => simp

end Tweaks.Template
