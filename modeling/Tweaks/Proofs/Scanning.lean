import Mathlib.Data.List.Infix
import Tweaks.Yaml.Token.Scan

/-!
# Faults of what is spelled

Cutting a text into tokens goes wrong in two ways only.  Mostly the text is not well formed.
But between double quotes a character may be spelled by its number, and then the text is well
formed and there may still be no such character.

Main results:

- `Stepwise.Meets.bind`: what two steps come to, if one is told of each what it comes to.
- `reads_escape`: the only place at which a fault of another kind arises.
- `scans_step`: one more token leaves the scanner at a place of the text, with tokens that
  stand for no fault.
- `blamed_of_mem_scan`: the faults among the tokens of a text.
-/

namespace Tweaks

/-! ## What steps come to -/

namespace Stepwise

variable {ε α β : Type} {cause : ε → Prop} {good : α → Prop} {first : Except ε α}

/-- What a step comes to: a value with a property, or an error that has a cause. -/
def Meets (cause : ε → Prop) (good : α → Prop) : Except ε α → Prop
  | .ok value => good value
  | .error e => cause e

/-- A first step, and what follows it. -/
theorem Meets.bind {good' : β → Prop} {next : α → Except ε β} (h : Meets cause good first)
    (hnext : ∀ value, good value → Meets cause good' (next value)) :
    Meets cause good' (first >>= next) := by
  cases first with
  | error e => exact h
  | ok value => exact hnext value h

/-- What is made of the value of a step. -/
theorem Meets.map {good' : β → Prop} {f : α → β} (h : Meets cause good first)
    (hgood : ∀ value, good value → good' (f value)) : Meets cause good' (first.map f) := by
  cases first with
  | error e => exact h
  | ok value => exact hgood value h

/-- One step or another. -/
theorem Meets.ite {p : Prop} [Decidable p] {other : Except ε α} (h : Meets cause good first)
    (hother : Meets cause good other) : Meets cause good (if p then first else other) := by
  split
  · exact h
  · exact hother

/-- What a step comes to, with less said about it. -/
theorem Meets.imp {cause' : ε → Prop} {good' : α → Prop} (h : Meets cause good first)
    (hcause : ∀ e, cause e → cause' e) (hgood : ∀ value, good value → good' value) :
    Meets cause' good' first := by
  cases first with
  | error e => exact hcause e h
  | ok value => exact hgood value h

end Stepwise

namespace Yaml

open Stepwise

/-! ## Places -/

section Places

variable {text : List Char} {c : Cursor}

/-- A place of a text: what is left to read is the end of the text. -/
def Cursor.In (c : Cursor) (text : List Char) : Prop :=
  c.rest <:+ text

namespace Cursor.In

/-- Behind the next character. -/
theorem next (h : c.In text) : c.next.In text := by
  rw [In, rest_next]
  exact (List.drop_suffix 1 c.rest).trans h

/-- Some characters ahead. -/
theorem advance (h : c.In text) (n : Nat) : (c.advance n).In text := by
  rw [In, rest_advance]
  exact (List.drop_suffix n c.rest).trans h

/-- Behind all characters that pass a test. -/
theorem takeWhile (h : c.In text) (p : Char → Bool) : (c.takeWhile p).2.In text :=
  h.advance _

/-- Behind spaces. -/
theorem skipSpaces (h : c.In text) : c.skipSpaces.In text :=
  h.takeWhile _

/-- Behind a comment. -/
theorem skipComment (h : c.In text) : c.skipComment.In text := by
  rw [Cursor.skipComment]
  split
  · exact h.takeWhile _
  · exact h

/-- Behind a line break. -/
theorem lineBreak (h : c.In text) {d : Char} {after : Cursor}
    (hbreak : c.lineBreak? = some (d, after)) : after.In text := by
  unfold lineBreak? at hbreak
  split at hbreak
  · cases hbreak
    exact h.advance 2
  · split at hbreak
    · cases hbreak
      exact h.next
    · split at hbreak
      · cases hbreak
        exact h.next
      · cases hbreak
  · cases hbreak

end Cursor.In

/-! ## Characters by their numbers -/

/-- Between the characters of a text there stands an escape that spells a character by its
number, where there is no such character. -/
def Misspells (text : List Char) (f : Fault) : Prop :=
  ∃ letter width digits n, '\\' :: letter :: digits <:+: text ∧ escapeWidth? letter = some width ∧
    digits.length = width ∧ hexNumber? digits = some n ∧ characterOf n = .error f

/-- Why a text cannot be cut into tokens. -/
def Blamed (text : List Char) (f : Fault) : Prop :=
  f = .malformed ∨ Misspells text f

/-- Reading stops in a text for a reason, or at a place of the text. -/
abbrev Reads (text : List Char) {α : Type} (result : Result (α × Cursor)) : Prop :=
  Meets (Blamed text) (fun read => read.2.In text) result

/-- What is not well formed. -/
theorem meets_malformed {α : Type} {good : α → Prop} :
    Meets (Blamed text) good (.error .malformed) :=
  Or.inl rfl

/-- The end of a line. -/
theorem meets_endOfLine (h : c.In text) : Meets (Blamed text) (fun c => c.In text) c.endOfLine := by
  rw [Cursor.endOfLine]
  split
  · split
    · next hbreak => exact h.skipSpaces.skipComment.lineBreak hbreak
    · exact h.skipSpaces.skipComment
  · exact meets_malformed

/-- The breaks of blank lines between quotes. -/
theorem reads_quotedBreaks (fuel : Nat) (h : c.In text) : Reads text (quotedBreaks fuel c) := by
  induction fuel generalizing c with
  | zero => exact meets_malformed
  | succ fuel ih =>
    rw [quotedBreaks]
    split
    · exact meets_malformed
    · dsimp only
      split
      · exact h.takeWhile _
      · next hbreak =>
        exact (ih ((h.takeWhile _).lineBreak hbreak)).bind fun _ hafter => hafter

/-- The blanks between two words. -/
theorem reads_quotedBlanks (h : c.In text) : Reads text (quotedBlanks c) := by
  rw [quotedBlanks]
  dsimp only
  split
  · exact meets_malformed
  · split
    · exact h.takeWhile _
    · next hbreak =>
      exact (reads_quotedBreaks _ ((h.takeWhile _).lineBreak hbreak)).bind fun _ hafter => hafter

/-- The digits of a number are the next characters. -/
theorem eq_of_digitsAt? {width n : Nat} (h : digitsAt? width c = some n) :
    ∃ digits rest, c.rest = digits ++ rest ∧ digits.length = width ∧
      hexNumber? digits = some n := by
  rw [digitsAt?] at h
  split at h
  · next hlength => exact ⟨_, _, (List.take_append_drop width c.rest).symm, hlength, h⟩
  · cases h

/-- A character that is not the mark of the end is the first of what is left. -/
theorem rest_eq_of_peek_ne (h : c.peek ≠ endMark) : c.rest = c.peek :: c.next.rest := by
  rw [Cursor.rest_next]
  obtain ⟨rest, size, index, line, column⟩ := c
  cases rest with
  | nil => exact absurd rfl h
  | cons d rest => rfl

/-- An escape that spells a character by its number blames the number. -/
theorem reads_escape (h : '\\' :: c.rest <:+ text) : Reads text (escape c) := by
  have hc : c.In text := (List.suffix_cons '\\' c.rest).trans h
  rw [escape]
  split
  · exact hc.next
  · split
    · next width hwidth =>
      split
      · exact meets_malformed
      · next n hn =>
        cases hchar : characterOf n with
        | ok d => exact hc.advance (1 + width)
        | error f =>
          have hpeek : c.peek ≠ endMark := by
            intro hend
            rw [hend] at hwidth
            cases hwidth
          obtain ⟨digits, rest, hrest, hlength, hnumber⟩ := eq_of_digitsAt? hn
          have hspelled : '\\' :: c.peek :: digits <+: '\\' :: c.rest := by
            rw [rest_eq_of_peek_ne hpeek, hrest]
            exact ⟨rest, rfl⟩
          exact Or.inr ⟨c.peek, width, digits, n, hspelled.isInfix.trans h.isInfix, hwidth, hlength,
            hnumber, hchar⟩
    · split
      · next hbreak => exact reads_quotedBreaks _ (hc.lineBreak hbreak)
      · exact meets_malformed

/-- Texts between quotes. -/
theorem reads_quotedText (mark : Char) (fuel : Nat) (h : c.In text) :
    Reads text (quotedText mark fuel c) := by
  induction fuel generalizing c with
  | zero => exact meets_malformed
  | succ fuel ih =>
    have hpiece : ∀ piece : List Char × Cursor × Bool, piece.2.1.In text →
        Reads text (if piece.2.2 = true then pure (piece.1, piece.2.1)
          else quotedText mark fuel piece.2.1 >>= fun read =>
            pure (piece.1 ++ read.1, read.2)) := by
      intro piece hin
      split
      · exact hin
      · exact (ih hin).bind fun _ hmore => hmore
    rw [quotedText]
    refine Meets.bind ?_ hpiece
    split
    · exact h.takeWhile _
    · split
      · split
        · exact h.advance 2
        · exact h.next
      · split
        · exact h.next
        · split
          · next hd =>
            split
            · have hpeek : c.peek ≠ endMark := by
                rw [hd]
                decide
              have hescape : '\\' :: c.next.rest <:+ text := by
                rw [← hd, ← rest_eq_of_peek_ne hpeek]
                exact h
              exact (reads_escape hescape).bind fun _ hafter => hafter
            · exact h.next
          · exact (reads_quotedBlanks h).bind fun _ hafter => hafter

/-- Quoted scalars. -/
theorem reads_quotedScalar (h : c.In text) : Reads text (quotedScalar c) :=
  reads_quotedText _ _ h.next

/-! ## Scalars without quotes -/

/-- Behind spaces, as far as a column. -/
theorem in_skipIndent (h : c.In text) (column : Nat) : (c.skipIndent column).In text :=
  h.advance _

/-- The breaks of blank lines behind the end of a line. -/
theorem in_plainBreaks (fuel : Nat) (h : c.In text) : (plainBreaks fuel c).2.In text := by
  induction fuel generalizing c with
  | zero => exact h
  | succ fuel ih =>
    rw [plainBreaks]
    split
    · exact h
    · dsimp only
      split
      · exact h.skipSpaces
      · next hbreak =>
        have hafter := ih (h.skipSpaces.lineBreak hbreak)
        split
        · next heq => rw [heq] at hafter; exact hafter
        · next heq => rw [heq] at hafter; exact hafter

/-- The blanks behind a run of a plain scalar. -/
theorem in_plainBlanks (h : c.In text) : (plainBlanks c).2.1.In text := by
  rw [plainBlanks]
  dsimp only
  split
  · exact h.takeWhile _
  · next first after hbreak =>
    have hafter := in_plainBreaks after.steps ((h.takeWhile _).lineBreak hbreak)
    split
    · next heq => rw [heq] at hafter; exact hafter
    · next heq => rw [heq] at hafter; exact hafter

/-- Plain scalars. -/
theorem in_plainText (inFlow : Bool) (indent fuel : Nat) (blanks : List Char) (atLineStart : Bool)
    (h : c.In text) : (plainText inFlow indent fuel blanks atLineStart c).after.In text := by
  induction fuel generalizing c blanks atLineStart with
  | zero => exact h
  | succ fuel ih =>
    rw [plainText]
    split
    · exact h
    · split
      · exact h
      · dsimp only
        have hblanks := fun n => in_plainBlanks (h.advance n)
        split
        · exact hblanks _
        · exact ih _ _ (hblanks _)

/-- The breaks of blank lines in a block scalar. -/
theorem in_blockBreaks (indent fuel : Nat) (h : c.In text) :
    (blockBreaks indent fuel c).2.In text := by
  induction fuel generalizing c with
  | zero => exact h
  | succ fuel ih =>
    rw [blockBreaks]
    dsimp only
    split
    · exact in_skipIndent h indent
    · next hbreak => exact ih ((in_skipIndent h indent).lineBreak hbreak)

/-- The breaks of blank lines before a block scalar. -/
theorem in_firstIndent (fuel most : Nat) (h : c.In text) :
    (firstIndent fuel most c).2.2.In text := by
  induction fuel generalizing c most with
  | zero => exact h
  | succ fuel ih =>
    rw [firstIndent]
    dsimp only
    split
    · exact h.skipSpaces
    · next hbreak => exact ih _ (h.skipSpaces.lineBreak hbreak)

/-- The lines of a block scalar. -/
theorem in_blockLines (folded : Bool) (chomping : Chomping) (indent fuel : Nat)
    (blank : List Char) (h : c.In text) :
    (blockLines folded chomping indent fuel blank c).2.In text := by
  induction fuel generalizing c blank with
  | zero => exact h
  | succ fuel ih =>
    have hline := h.takeWhile fun d => !isBreakOrEnd d
    rw [blockLines]
    dsimp only
    cases hbreak : (c.takeWhile fun d => !isBreakOrEnd d).2.lineBreak? with
    | none =>
      dsimp only
      split
      · exact ih _ (in_blockBreaks _ _ hline)
      · exact in_blockBreaks _ _ hline
    | some ending =>
      obtain ⟨d, after⟩ := ending
      have hafter := hline.lineBreak hbreak
      dsimp only
      split
      · exact ih _ (in_blockBreaks _ _ hafter)
      · exact in_blockBreaks _ _ hafter

/-- The indentation in a header. -/
theorem reads_indentDigit (h : c.In text) : Reads text (indentDigit c) := by
  rw [indentDigit]
  split
  · split
    · exact meets_malformed
    · exact h.next
  · exact h

/-- Headers of block scalars. -/
theorem reads_blockHeader (h : c.In text) : Reads text (blockHeader c) := by
  rw [blockHeader]
  refine Meets.bind (?_ : Reads text _) ?_
  · split
    · exact (reads_indentDigit h.next).bind fun _ hafter => hafter
    · refine (reads_indentDigit h).bind fun read hafter => ?_
      dsimp only
      split
      · exact hafter.next
      · exact hafter
  · intro read hafter
    dsimp only
    split
    · exact hafter
    · exact meets_malformed

/-- Block scalars. -/
theorem reads_blockScalar (parent : Int) (h : c.In text) : Reads text (blockScalar parent c) := by
  rw [blockScalar]
  refine (reads_blockHeader h.next).bind fun read hread => ?_
  refine (meets_endOfLine hread).bind fun c hc => ?_
  dsimp only
  split
  · split
    · exact in_blockLines _ _ _ _ _ (in_blockBreaks _ _ hc)
    · exact in_blockBreaks _ _ hc
  · split
    · exact in_blockLines _ _ _ _ _ (in_firstIndent _ _ hc)
    · exact in_firstIndent _ _ hc

/-! ## Tags, anchors and directives -/

/-- Whether a token stands for a fault. -/
def Token.isFault : Token → Bool
  | .fault _ => true
  | _ => false

/-- Reading a token stops in a text for a reason, or comes to a token at a place of the text. -/
abbrev ReadsToken (text : List Char) (result : Result (Token × Cursor)) : Prop :=
  Meets (Blamed text) (fun read => read.1.isFault = false ∧ read.2.In text) result

/-- The octets of escapes. -/
theorem reads_tagOctets (fuel : Nat) (h : c.In text) : Reads text (tagOctets fuel c) := by
  induction fuel generalizing c with
  | zero => exact meets_malformed
  | succ fuel ih =>
    rw [tagOctets]
    split
    · split
      · exact (ih (h.advance 3)).bind fun _ hafter => hafter
      · exact meets_malformed
    · exact h

/-- The characters of a tag. -/
theorem reads_tagText (fuel : Nat) (h : c.In text) : Reads text (tagText fuel c) := by
  induction fuel generalizing c with
  | zero => exact meets_malformed
  | succ fuel ih =>
    rw [tagText]
    split
    · refine (reads_tagOctets _ h).bind fun octets hoctets => ?_
      dsimp only
      split
      · exact meets_malformed
      · exact (ih hoctets).bind fun _ hafter => hafter
    · have htaken := h.takeWhile isTagChar
      split
      · next heq => rw [heq] at htaken; exact htaken
      · next heq =>
        rw [heq] at htaken
        exact (ih htaken).bind fun _ hafter => hafter

/-- The characters of a tag, at least one. -/
theorem reads_someTagText (h : c.In text) : Reads text (someTagText c) := by
  rw [someTagText]
  split
  · exact reads_tagText _ h
  · exact meets_malformed

/-- The handles of tags. -/
theorem reads_tagHandle (h : c.In text) : Reads text (tagHandle c) := by
  rw [tagHandle]
  split
  · split
    · exact h.next
    · dsimp only
      split
      · exact (h.next.takeWhile _).next
      · exact meets_malformed
  · exact meets_malformed

/-- Tags. -/
theorem reads_tagToken (h : c.In text) : ReadsToken text (tagToken c) := by
  have hdone : ∀ read : Token × Cursor, read.1.isFault = false ∧ read.2.In text →
      ReadsToken text (if isSpaceOrEnd read.2.peek = true then pure read
        else .error .malformed) := by
    intro read hread
    split
    · exact hread
    · exact meets_malformed
  rw [tagToken]
  refine Meets.bind ?_ hdone
  split
  · refine (reads_someTagText (h.advance 2)).bind fun suffix hsuffix => ?_
    dsimp only
    split
    · exact ⟨rfl, hsuffix.next⟩
    · exact meets_malformed
  · split
    · exact ⟨rfl, h.next⟩
    · split
      · refine (reads_tagHandle h).bind fun handle hhandle => ?_
        exact (reads_someTagText hhandle).bind fun suffix hsuffix => ⟨rfl, hsuffix⟩
      · exact (reads_someTagText h.next).bind fun suffix hsuffix => ⟨rfl, hsuffix⟩

/-- The names of anchors. -/
theorem reads_anchorName (h : c.In text) : Reads text (anchorName c) := by
  have htaken := h.next.takeWhile isWordChar
  rw [anchorName]
  split
  · exact meets_malformed
  · next heq =>
    rw [heq] at htaken
    split
    · exact htaken
    · exact meets_malformed

/-- The numbers of directives. -/
theorem reads_directiveNumber (h : c.In text) : Reads text (directiveNumber c) := by
  have htaken := h.takeWhile Char.isDigit
  rw [directiveNumber]
  split
  · exact meets_malformed
  · next heq =>
    rw [heq] at htaken
    exact htaken

/-- Versions. -/
theorem reads_versionValue (h : c.In text) : ReadsToken text (versionValue c) := by
  rw [versionValue]
  refine (reads_directiveNumber h.skipSpaces).bind fun major hmajor => ?_
  dsimp only
  split
  · refine (reads_directiveNumber hmajor.next).bind fun minor hminor => ?_
    split
    · exact ⟨rfl, hminor⟩
    · exact meets_malformed
  · exact meets_malformed

/-- Handles with what they stand for. -/
theorem reads_tagValue (h : c.In text) : ReadsToken text (tagValue c) := by
  rw [tagValue]
  refine (reads_tagHandle h.skipSpaces).bind fun handle hhandle => ?_
  dsimp only
  split
  · refine (reads_someTagText hhandle.skipSpaces).bind fun leading hleading => ?_
    split
    · exact ⟨rfl, hleading⟩
    · exact meets_malformed
  · exact meets_malformed

/-- Directives. -/
theorem reads_directiveToken (h : c.In text) : ReadsToken text (directiveToken c) := by
  have hname := h.next.takeWhile isWordChar
  rw [directiveToken]
  dsimp only
  split
  · exact meets_malformed
  · refine Meets.bind (?_ : ReadsToken text _) ?_
    · split
      · exact reads_versionValue hname
      · split
        · exact reads_tagValue hname
        · exact ⟨rfl, hname.takeWhile _⟩
    · intro read hread
      exact (meets_endOfLine hread.2).bind fun c hc => ⟨hread.1, hc⟩

end Places

/-! ## The scanner -/

namespace Scanner

variable {text : List Char} {s : Scanner}

/-- A scanner stands at a place of a text, and has found no fault. -/
structure Good (text : List Char) (s : Scanner) : Prop where
  within : s.cursor.In text
  clean : ∀ t ∈ s.tokens, t.isFault = false

/-- A step of the scanner stops for a reason, or leaves the scanner at a place of the text. -/
abbrev Scans (text : List Char) (result : Result Scanner) : Prop :=
  Meets (Blamed text) (Good text) result

/-- The scanner as it stands. -/
theorem scans_pure (h : Good text s) : Scans text (pure s) :=
  h

/-- One more token. -/
theorem Good.emit (h : Good text s) {t : Token} (ht : t.isFault = false) :
    Good text (s.emit t) where
  within := h.within
  clean := by
    intro u hu
    rcases List.mem_cons.1 hu with rfl | hu
    · exact ht
    · exact h.clean u hu

/-- A token put in place. -/
theorem Good.insertToken (h : Good text s) (number : Nat) {t : Token} (ht : t.isFault = false) :
    Good text (s.insertToken number t) where
  within := h.within
  clean := by
    intro u hu
    rcases List.mem_append.1 hu with hu | hu
    · exact h.clean u (List.mem_of_mem_take hu)
    · rcases List.mem_cons.1 hu with rfl | hu
      · exact ht
      · exact h.clean u (List.mem_of_mem_drop hu)

/-- The ends of blocks. -/
theorem Good.closeBlocks (h : Good text s) (column : Int) : Good text (s.closeBlocks column) := by
  rw [Scanner.closeBlocks]
  split
  · exact h
  · dsimp only
    split
    · exact h
    · refine ⟨h.within, fun t ht => ?_⟩
      rcases List.mem_append.1 ht with ht | ht
      · obtain ⟨_, -, rfl⟩ := List.mem_map.1 ht
        rfl
      · exact h.clean t ht

/-- Going to the next token. -/
theorem Good.skipToToken (h : Good text s) (fuel : Nat) : Good text (s.skipToToken fuel) := by
  induction fuel generalizing s with
  | zero => exact h
  | succ fuel ih =>
    rw [Scanner.skipToToken]
    split
    · exact ⟨h.within.skipSpaces.skipComment, h.clean⟩
    · next hbreak => exact ih ⟨h.within.skipSpaces.skipComment.lineBreak hbreak, h.clean⟩

/-- Going past a byte order mark. -/
theorem Good.skipByteOrderMark (h : Good text s) : Good text s.skipByteOrderMark := by
  rw [Scanner.skipByteOrderMark]
  split
  · exact ⟨h.within.next, h.clean⟩
  · exact h

/-- Forgetting keys that are too far away. -/
theorem scans_dropStaleKeys (h : Good text s) : Scans text s.dropStaleKeys := by
  rw [dropStaleKeys]
  dsimp only
  split
  · exact meets_malformed
  · exact ⟨h.within, h.clean⟩

/-- Forgetting a key. -/
theorem scans_forgetKey (h : Good text s) : Scans text s.forgetKey := by
  rw [forgetKey]
  split
  · split
    · exact meets_malformed
    · exact ⟨h.within, h.clean⟩
  · exact h

/-- Remembering a key. -/
theorem scans_rememberKey (h : Good text s) : Scans text s.rememberKey := by
  rw [rememberKey]
  split
  · exact (scans_forgetKey h).bind fun s hs => ⟨hs.within, hs.clean⟩
  · exact h

/-- Opening a block. -/
theorem Good.openBlock (h : Good text s) {column : Nat} {s' : Scanner}
    (hopen : s.openBlock column = some s') : Good text s' := by
  rw [Scanner.openBlock] at hopen
  split at hopen
  · cases hopen
    exact ⟨h.within, h.clean⟩
  · cases hopen

/-- Opening a block for an entry. -/
theorem scans_openFor (h : Good text s) {opening : Token} (ht : opening.isFault = false) :
    Scans text (s.openFor opening) := by
  rw [openFor]
  split
  · exact h
  · split
    · split
      · next hopen => exact (h.openBlock hopen).emit ht
      · exact h
    · exact meets_malformed

/-- The end of the text. -/
theorem scans_atEnd (h : Good text s) : Scans text s.atEnd := by
  rw [atEnd]
  exact (scans_forgetKey (h.closeBlocks (-1))).bind fun s hs => hs.emit rfl

/-- Directives. -/
theorem scans_directive (h : Good text s) : Scans text s.directive := by
  rw [directive]
  refine (scans_forgetKey (h.closeBlocks (-1))).bind fun s hs => ?_
  refine (reads_directiveToken hs.within).bind fun read hread => ?_
  refine scans_pure (Good.emit ?_ hread.1)
  exact ⟨hread.2, hs.clean⟩

/-- Markers of documents. -/
theorem scans_documentMarker (h : Good text s) {t : Token} (ht : t.isFault = false) :
    Scans text (s.documentMarker t) := by
  rw [documentMarker]
  refine (scans_forgetKey (h.closeBlocks (-1))).bind fun s hs => ?_
  refine scans_pure (Good.emit ?_ ht)
  exact ⟨hs.within.advance 3, hs.clean⟩

/-- Starts of flow collections. -/
theorem scans_openFlow (h : Good text s) {t : Token} (ht : t.isFault = false) :
    Scans text (s.openFlow t) := by
  rw [openFlow]
  refine (scans_rememberKey h).bind fun s hs => ?_
  refine scans_pure (Good.emit ?_ ht)
  exact ⟨hs.within.next, hs.clean⟩

/-- Ends of flow collections. -/
theorem scans_closeFlow (h : Good text s) {t : Token} (ht : t.isFault = false) :
    Scans text (s.closeFlow t) := by
  rw [closeFlow]
  refine (scans_forgetKey h).bind fun s hs => ?_
  split
  · refine scans_pure (Good.emit ?_ ht)
    exact ⟨hs.within.next, hs.clean⟩
  · exact meets_malformed

/-- Commas. -/
theorem scans_flowEntry (h : Good text s) : Scans text s.flowEntry := by
  rw [flowEntry]
  refine (scans_forgetKey h).bind fun s hs => ?_
  refine scans_pure (Good.emit ?_ rfl)
  exact ⟨hs.within.next, hs.clean⟩

/-- Dashes. -/
theorem scans_blockEntry (h : Good text s) : Scans text s.blockEntry := by
  rw [blockEntry]
  refine (scans_openFor h rfl).bind fun s hs => ?_
  refine Meets.bind (scans_forgetKey ⟨hs.within, hs.clean⟩) fun s hs => ?_
  refine scans_pure (Good.emit ?_ rfl)
  exact ⟨hs.within.next, hs.clean⟩

/-- Question marks. -/
theorem scans_explicitKey (h : Good text s) : Scans text s.explicitKey := by
  rw [explicitKey]
  refine (scans_openFor h rfl).bind fun s hs => ?_
  refine Meets.bind (scans_forgetKey ⟨hs.within, hs.clean⟩) fun s hs => ?_
  refine scans_pure (Good.emit ?_ rfl)
  exact ⟨hs.within.next, hs.clean⟩

/-- Colons. -/
theorem scans_value (h : Good text s) : Scans text s.value := by
  rw [value]
  have hcolon : ∀ s : Scanner, Good text s →
      Scans text (pure ({ s with cursor := s.cursor.next }.emit .value)) := by
    intro s hs
    refine scans_pure (Good.emit ?_ rfl)
    exact ⟨hs.within.next, hs.clean⟩
  refine Meets.bind ?_ hcolon
  split
  · next key keys _ =>
    have hkey : Good text ({ s with keys := none :: keys }.insertToken key.tokens .key) := by
      refine Good.insertToken ?_ key.tokens rfl
      exact ⟨h.within, h.clean⟩
    dsimp only
    split
    · exact ⟨hkey.within, hkey.clean⟩
    · split
      · next hopen =>
        have hblock := (hkey.openBlock hopen).insertToken key.tokens (t := .blockMappingStart) rfl
        exact ⟨hblock.within, hblock.clean⟩
      · exact ⟨hkey.within, hkey.clean⟩
  · refine (scans_openFor h rfl).bind fun s hs => ?_
    exact scans_forgetKey ⟨hs.within, hs.clean⟩

/-- Tokens that may begin a key. -/
theorem scans_keyPart (h : Good text s) {read : Cursor → Result (Token × Cursor)}
    (hread : ∀ c : Cursor, c.In text → ReadsToken text (read c)) : Scans text (s.keyPart read) := by
  rw [keyPart]
  refine (scans_rememberKey h).bind fun s hs => ?_
  refine (hread s.cursor hs.within).bind fun token htoken => ?_
  refine scans_pure (Good.emit ?_ htoken.1)
  exact ⟨htoken.2, hs.clean⟩

/-- Plain scalars. -/
theorem scans_plain (h : Good text s) : Scans text s.plain := by
  rw [plain]
  refine (scans_rememberKey h).bind fun s hs => ?_
  refine scans_pure (Good.emit ?_ rfl)
  exact ⟨in_plainText _ _ _ _ _ hs.within, hs.clean⟩

/-- Block scalars. -/
theorem scans_block (h : Good text s) : Scans text s.block := by
  rw [block]
  refine (scans_forgetKey h).bind fun s hs => ?_
  refine (reads_blockScalar s.indent hs.within).bind fun read hread => ?_
  refine scans_pure (Good.emit ?_ rfl)
  exact ⟨hread, hs.clean⟩

/-- One more token, at a place where one begins. -/
theorem scans_readToken (h : Good text s) : Scans text s.readToken := by
  unfold readToken
  refine (scans_directive h).ite ?_
  refine (scans_documentMarker h rfl).ite ?_
  refine (scans_documentMarker h rfl).ite ?_
  refine (scans_openFlow h rfl).ite ?_
  refine (scans_openFlow h rfl).ite ?_
  refine (scans_closeFlow h rfl).ite ?_
  refine (scans_closeFlow h rfl).ite ?_
  refine (scans_flowEntry h).ite ?_
  refine (scans_blockEntry h).ite ?_
  refine (scans_explicitKey h).ite ?_
  refine (scans_value h).ite ?_
  refine Meets.ite (scans_keyPart h fun c hc => ?_) ?_
  · exact (reads_anchorName hc).bind fun _ hafter => ⟨rfl, hafter⟩
  refine Meets.ite (scans_keyPart h fun c hc => ?_) ?_
  · exact (reads_anchorName hc).bind fun _ hafter => ⟨rfl, hafter⟩
  refine (scans_keyPart h fun c hc => reads_tagToken hc).ite ?_
  refine (scans_block h).ite ?_
  refine Meets.ite (scans_keyPart h fun c hc => ?_) ?_
  · exact (reads_quotedScalar hc).bind fun _ hafter => ⟨rfl, hafter⟩
  exact (scans_plain h).ite meets_malformed

/-- The next token. -/
theorem scans_step (h : Good text s) : Scans text s.step := by
  rw [step]
  refine (scans_dropStaleKeys (h.skipByteOrderMark.skipToToken _)).bind fun s hs => ?_
  dsimp only
  split
  · exact scans_atEnd (hs.closeBlocks _)
  · exact scans_readToken (hs.closeBlocks _)

/-- The faults among tokens that are read with others before them. -/
theorem blamed_of_mem_run (fuel : Nat) (h : Good text s) {f : Fault}
    (hf : .fault f ∈ s.run fuel) : Blamed text f := by
  have hlast : ∀ {s : Scanner} {last : Fault}, Good text s → Blamed text last →
      .fault f ∈ (.fault last :: s.tokens).reverse → Blamed text f := by
    intro s last hs hblamed hmem
    rcases List.mem_cons.1 (List.mem_reverse.1 hmem) with heq | hmem
    · cases heq
      exact hblamed
    · cases hs.clean _ hmem
  induction fuel generalizing s with
  | zero => exact hlast h (Or.inl rfl) hf
  | succ fuel ih =>
    have hstep := scans_step h
    unfold run at hf
    split at hf
    · next heq =>
      rw [heq] at hstep
      exact hlast h hstep hf
    · next heq =>
      rw [heq] at hstep
      split at hf
      · cases hstep.clean _ (List.mem_reverse.1 hf)
      · exact ih hstep hf

end Scanner

/-- The faults among the tokens of a text: it is not well formed, or it spells a character by a
number that no character has. -/
theorem blamed_of_mem_scan {text : List Char} {f : Fault} (h : .fault f ∈ scan text) :
    Blamed text f := by
  rw [scan] at h
  split at h
  · have hstart : Scanner.Good text (Scanner.start text) :=
      ⟨List.suffix_refl text, fun _ ht => absurd ht List.not_mem_nil⟩
    exact Scanner.blamed_of_mem_run _ hstart h
  · cases List.mem_singleton.1 h
    exact Or.inl rfl

end Yaml

end Tweaks
