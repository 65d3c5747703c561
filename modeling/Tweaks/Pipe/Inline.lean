import Tweaks.Text.Blank
import Tweaks.Text.Lines
import Tweaks.Text.Replace

/-!
# PowerShell on one line

Collapses a PowerShell script into a single line, in four passes: line comments
go and block comments are kept, here-strings become ordinary strings, lines that
end in a backtick are joined with the next, and the remaining lines are joined
with semicolons.

Main results:

- `dropComments_of_not_hash`: a text without a hash sign has no comments.
-/

namespace Tweaks.Pipe

open Text

/-! ## Comments -/

/-- The rest of a line, and what follows it from the line feed on. -/
def restOfLine (s : List Char) : List Char × List Char :=
  (s.takeWhile (· ≠ '\n'), s.dropWhile (· ≠ '\n'))

/-- The part of a line before its last `#>`, and the part behind it. -/
def cutLastClose? : List Char → Option (List Char × List Char)
  | [] => none
  | c :: s =>
    match cutLastClose? s with
    | some (before, after) => some (c :: before, after)
    | none => if c = '#' && s.head? = some '>' then some ([], s.tail) else none

/-- What follows the close is shorter than the line. -/
theorem length_cutLastClose?_lt {s before after : List Char}
    (h : cutLastClose? s = some (before, after)) : after.length < s.length := by
  induction s generalizing before with
  | nil => simp [cutLastClose?] at h
  | cons c s ih =>
    rw [cutLastClose?] at h
    split at h
    · next b a hs =>
      simp only [Option.some.injEq, Prod.mk.injEq] at h
      obtain ⟨-, rfl⟩ := h
      have := ih hs
      simp; omega
    · split at h
      · simp only [Option.some.injEq, Prod.mk.injEq] at h
        obtain ⟨-, rfl⟩ := h
        rw [List.length_tail, List.length_cons]
        omega
      · cases h

/-- A block comment behind its `<#`: what it says, and the text behind it.  It
ends at the last `#>` of the line on which its first word stands. -/
def blockComment? (s : List Char) : Option (List Char × List Char) :=
  let (line, after) := restOfLine (dropBlank s)
  (cutLastClose? line).map fun (comment, rest) => (comment, rest ++ after)

/-- What follows a block comment is shorter than what follows its opening. -/
theorem length_of_blockComment? {s comment rest : List Char}
    (h : blockComment? s = some (comment, rest)) : rest.length < s.length := by
  simp only [blockComment?, restOfLine] at h
  obtain ⟨⟨before, after⟩, hcut, heq⟩ := Option.map_eq_some_iff.1 h
  simp only [Prod.mk.injEq] at heq
  obtain ⟨rfl, rfl⟩ := heq
  have h1 := length_cutLastClose?_lt hcut
  have h2 := length_dropBlank_le s
  have h3 := congrArg List.length
    (List.takeWhile_append_dropWhile (p := fun c : Char => decide (c ≠ '\n')) (l := dropBlank s))
  rw [List.length_append] at h3
  rw [List.length_append]
  omega

/-- What follows a line comment, given the text behind its hash sign: the
comment's first word may stand on a later line. -/
def afterLineComment (s : List Char) : List Char :=
  (restOfLine (dropBlank s)).2

/-- What follows a line comment is no longer than what follows its hash sign. -/
theorem length_afterLineComment_le (s : List Char) :
    (afterLineComment s).length ≤ s.length := by
  have h1 := (List.dropWhile_sublist (fun c : Char => decide (c ≠ '\n'))
    (l := dropBlank s)).length_le
  have h2 := length_dropBlank_le s
  simp only [afterLineComment, restOfLine]
  omega

/-- A text without line comments, and with every block comment set off by single
spaces. -/
def dropComments : List Char → List Char
  | [] => []
  | c :: s =>
    if c = '#' then dropComments (afterLineComment s)
    else if c = '<' && s.head? = some '#' then
      match _h : blockComment? s.tail with
      | some (comment, rest) =>
        "<# ".toList ++ stripChars comment ++ " #>".toList ++ dropComments rest
      | none => c :: dropComments s
    else c :: dropComments s
termination_by s => s.length
decreasing_by
  · have := length_afterLineComment_le s
    simp; omega
  · have := length_of_blockComment? _h
    simp at this ⊢; omega
  · simp
  · simp

/-- A text without a hash sign has no comments. -/
theorem dropComments_of_not_hash {s : List Char} (h : '#' ∉ s) : dropComments s = s := by
  induction s with
  | nil => rw [dropComments]
  | cons c s ih =>
    simp only [List.mem_cons, not_or] at h
    have hhead : s.head? ≠ some '#' := by
      cases s with
      | nil => simp
      | cons d s => simp at h ⊢; exact fun hd => h.2.1 hd.symm
    rw [dropComments]
    simp [Ne.symm h.1, hhead, ih h.2]

/-! ## Here-strings -/

/-- The rest of a text behind a break, if it starts with one. -/
def afterBreak? : List Char → Option (List Char)
  | '\r' :: '\n' :: s => some s
  | '\r' :: s => some s
  | '\n' :: s => some s
  | _ => none

/-- The text behind the end of a here-string: a break, a quote of either kind and
an at sign. -/
def afterClose? (s : List Char) : Option (List Char) :=
  match afterBreak? s with
  | some (q :: '@' :: rest) => if q = '\x27' || q = '\x22' then some rest else none
  | _ => none

/-- The content of a here-string up to its end, and the text behind it.  `read`
is what was read already, the last character first. -/
def contentUpto? : (read s : List Char) → Option (List Char × List Char)
  | _, [] => none
  | read, c :: s =>
    match read.isEmpty, afterClose? (c :: s) with
    | false, some rest => some (read.reverse, rest)
    | _, _ => contentUpto? (c :: read) s

/-- The places in the blanks behind an opening quote at which the content may
start: behind each break, the last one first. -/
def contentStarts : List Char → List (List Char)
  | [] => []
  | c :: s =>
    if isBlank c then contentStarts s ++ (if isBreak c then [s] else [])
    else []

/-- A here-string behind its opening quote: its content, and the text behind. -/
def hereString? (s : List Char) : Option (List Char × List Char) :=
  (contentStarts s).findSome? (contentUpto? [])

/-- What follows the end of a here-string is shorter than the text. -/
theorem length_of_afterClose? {s rest : List Char} (h : afterClose? s = some rest) :
    rest.length < s.length := by
  simp only [afterClose?] at h
  split at h
  · next q t ht =>
    split at h
    · cases h
      unfold afterBreak? at ht
      split at ht <;> simp at ht <;> subst ht <;> simp <;> omega
    · cases h
  · cases h

/-- What follows the content is no longer than the text it was read from. -/
theorem length_of_contentUpto? {read s content rest : List Char}
    (h : contentUpto? read s = some (content, rest)) : rest.length ≤ s.length := by
  induction s generalizing read with
  | nil => simp [contentUpto?] at h
  | cons c s ih =>
    rw [contentUpto?] at h
    split at h
    · next after _ hs =>
      have := length_of_afterClose? hs
      simp only [Option.some.injEq, Prod.mk.injEq] at h
      obtain ⟨-, rfl⟩ := h
      omega
    · have := ih h
      simp; omega

/-- A place where the content may start is a rest of the text. -/
theorem length_of_mem_contentStarts {s start : List Char} (h : start ∈ contentStarts s) :
    start.length ≤ s.length := by
  induction s with
  | nil => simp [contentStarts] at h
  | cons c s ih =>
    rw [contentStarts] at h
    split at h
    · rcases List.mem_append.1 h with h | h
      · have := ih h
        simp; omega
      · split at h
        · simp at h; subst h; simp
        · simp at h
    · simp at h

/-- What follows a here-string is no longer than what follows its opening. -/
theorem length_of_hereString? {s content rest : List Char}
    (h : hereString? s = some (content, rest)) : rest.length ≤ s.length := by
  obtain ⟨start, hmem, hstart⟩ := List.exists_of_findSome?_eq_some h
  exact Nat.le_trans (length_of_contentUpto? hstart) (length_of_mem_contentStarts hmem)

/-- How a kind of here-string is written on one line: its quote, the escaped
quote, and what stands for a break. -/
structure OneLineString where
  mark : Char
  escaped : List Char
  separator : List Char
deriving DecidableEq, Repr

/-- Between single quotes a quote is doubled, and a break is added from outside. -/
def literalString : OneLineString :=
  ⟨'\x27', ['\x27', '\x27'], "'+\"\x60r\x60n\"+'".toList⟩

/-- Between double quotes a backtick escapes quotes and spells breaks. -/
def expandedString : OneLineString :=
  ⟨'\x22', ['\x60', '\x22'], "\x60r\x60n".toList⟩

/-- The content of a here-string as a string on one line. -/
def OneLineString.write (style : OneLineString) (content : List Char) : List Char :=
  let lines := splitLines (replace [style.mark] style.escaped content)
  style.mark :: joinWith style.separator lines ++ [style.mark]

/-- The style of the here-string that a quote opens. -/
def OneLineString.ofMark? (c : Char) : Option OneLineString :=
  if c = '\x27' then some literalString
  else if c = '\x22' then some expandedString
  else none

/-- A here-string at the start of a text, as a string on one line, and the text
behind it. -/
def nextHereString? (s : List Char) : Option (List Char × List Char) :=
  match s with
  | '@' :: q :: s => do
    let style ← OneLineString.ofMark? q
    let (content, rest) ← hereString? s
    some (style.write content, rest)
  | _ => none

/-- What follows a here-string is shorter than the text that starts with it. -/
theorem length_of_nextHereString? {s written rest : List Char}
    (h : nextHereString? s = some (written, rest)) : rest.length < s.length := by
  unfold nextHereString? at h
  split at h
  · simp only [Option.bind_eq_bind, Option.bind_eq_some_iff] at h
    obtain ⟨style, -, ⟨content, after⟩, hs, heq⟩ := h
    simp only [Option.some.injEq, Prod.mk.injEq] at heq
    obtain ⟨-, rfl⟩ := heq
    have := length_of_hereString? hs
    simp; omega
  · cases h

/-- A text with every here-string as a string on one line. -/
def inlineHereStrings (s : List Char) : List Char :=
  match _h : nextHereString? s with
  | some (written, rest) => written ++ inlineHereStrings rest
  | none =>
    match s with
    | [] => []
    | c :: s => c :: inlineHereStrings s
termination_by s.length
decreasing_by
  · exact length_of_nextHereString? _h
  · simp

/-! ## Continued lines -/

/-- What follows a continuation at the start of a text: at least one space, a
backtick, and blanks with a break among them. -/
def afterContinuation? (s : List Char) : Option (List Char) :=
  match s with
  | ' ' :: s =>
    match s.dropWhile (· = ' ') with
    | '\x60' :: s =>
      if (s.takeWhile isBlank).any isBreak then some (dropBlank s) else none
    | _ => none
  | _ => none

/-- What follows a continuation is shorter than the text that starts with it. -/
theorem length_of_afterContinuation? {s rest : List Char}
    (h : afterContinuation? s = some rest) : rest.length < s.length := by
  unfold afterContinuation? at h
  split at h
  · next t =>
    split at h
    · next u hu =>
      split at h
      · cases h
        have h1 := (List.dropWhile_sublist (fun c : Char => decide (c = ' ')) (l := t)).length_le
        have h2 := length_dropBlank_le u
        rw [hu] at h1
        simp only [List.length_cons] at h1 ⊢
        omega
      · cases h
    · cases h
  · cases h

/-- A text with every continuation replaced by one space. -/
def joinContinued (s : List Char) : List Char :=
  match _h : afterContinuation? s with
  | some rest => ' ' :: joinContinued rest
  | none =>
    match s with
    | [] => []
    | c :: s => c :: joinContinued s
termination_by s.length
decreasing_by
  · exact length_of_afterContinuation? _h
  · simp

/-! ## One line -/

/-- The lines of a text, without blanks around them and without empty ones,
joined with semicolons. -/
def joinStatements (s : List Char) : List Char :=
  let statements := (splitLines s).map stripChars
  joinWith "; ".toList (statements.filter fun line => !line.isEmpty)

/-- A PowerShell script on one line. -/
def inlineChars (s : List Char) : List Char :=
  joinStatements (joinContinued (inlineHereStrings (dropComments s)))

end Tweaks.Pipe
