import Tweaks.Console.Emoji
import Tweaks.Console.Look
import Tweaks.Console.Value

/-!
# Markup

Texts for the terminal may hold tags, words in square brackets, that say how the text looks,
and names of pictures between colons.  A backslash before a tag makes it part of the text.
Without colours only the text itself is left.
-/

namespace Tweaks.Console.Markup

/-- A piece of a text with markup. -/
inductive Piece where
  /-- A part of the text. -/
  | text (s : List Char)
  /-- What stands between the brackets of a tag. -/
  | tag (s : List Char)
deriving DecidableEq, Repr

/-- Why a text with markup cannot be read. -/
inductive Fault where
  /-- A tag ends what is not begun, or hands on what is no value. -/
  | tag
  /-- A part of a colour is no number. -/
  | colour
deriving DecidableEq, Repr

/-- Whether a tag may start with a character. -/
def startsTag (c : Char) : Bool :=
  ('a' ≤ c && c ≤ 'z') || c = '#' || c = '/' || c = '@'

/-- What stands before the first character of a kind, and what behind it. -/
def splitAt? (isEnd : Char → Bool) : List Char → Option (List Char × List Char)
  | [] => none
  | c :: s =>
    if isEnd c then some ([], s)
    else (splitAt? isEnd s).map fun (before, behind) => (c :: before, behind)

/-- What stands behind the character is shorter than the whole. -/
theorem length_of_splitAt? {isEnd : Char → Bool} {s before behind : List Char}
    (h : splitAt? isEnd s = some (before, behind)) : behind.length < s.length := by
  induction s generalizing before behind with
  | nil => cases h
  | cons c s ih =>
    rw [splitAt?] at h
    split at h
    · cases h; simp
    · obtain ⟨⟨b, r⟩, hbr, h⟩ := Option.map_eq_some_iff.1 h
      cases h
      have := ih hbr
      simp; omega

/-- A tag at the start of a text: what stands between its brackets, and what follows.  No other
tag starts between them. -/
def tag? : List Char → Option (List Char × List Char)
  | '[' :: c :: s =>
    if startsTag c then
      match splitAt? (· = ']') s with
      | some (name, rest) => if name.contains '[' then none else some (c :: name, rest)
      | none => none
    else none
  | _ => none

/-- What follows a tag is shorter than the whole. -/
theorem length_of_tag? {s name rest : List Char}
    (h : tag? s = some (name, rest)) : rest.length < s.length := by
  unfold tag? at h
  split at h
  · next c t =>
    split at h
    · split at h
      · next name' rest' hs =>
        split at h
        · cases h
        · cases h
          have := length_of_splitAt? hs
          simp; omega
      · cases h
    · cases h
  · cases h

/-- The number of backslashes at the start of a text. -/
def backslashes (s : List Char) : Nat :=
  (s.takeWhile (· = '\\')).length

/-- A tag with the backslashes before it: their number, what stands between the
brackets, and what follows. -/
def escapedTag? (s : List Char) : Option (Nat × List Char × List Char) :=
  (tag? (s.drop (backslashes s))).map fun (name, rest) => (backslashes s, name, rest)

/-- What follows an escaped tag is shorter than the whole. -/
theorem length_of_escapedTag? {s name rest : List Char} {n : Nat}
    (h : escapedTag? s = some (n, name, rest)) : rest.length < s.length := by
  obtain ⟨⟨name', rest'⟩, ht, h⟩ := Option.map_eq_some_iff.1 h
  cases h
  have := length_of_tag? ht
  simp at this
  omega

/-! ## Reading -/

/-- The pieces of a text with markup; `read` is what is read of a part, backwards.  Of the
backslashes before a tag half are kept; one that is left over makes the tag part of the
text. -/
def pieces (read s : List Char) : List Piece :=
  match _h : escapedTag? s with
  | some (n, name, rest) =>
    .text read.reverse :: .text (List.replicate (n / 2) '\\') ::
      (if n % 2 = 1 then .text ('[' :: name ++ [']']) else .tag name) :: pieces [] rest
  | none =>
    match s with
    | [] => [.text read.reverse]
    | c :: s => pieces (c :: read) s
termination_by s.length
decreasing_by
  · exact length_of_escapedTag? _h
  · simp

/-- A part of the text as it is shown.  A backslash before a bracket is dropped. -/
def shown (s : List Char) : List Char :=
  Emoji.replace (Text.replace ['\\', '['] ['['] s)

/-! ## Tags -/

/-- A tag that is open: its name in normal form, and what stands behind an equals sign. -/
structure Opened where
  name : List Char
  given : Option (List Char)
deriving DecidableEq, Repr

/-- What a tag hands on: what stands in brackets behind a name, if the name is all that stands
before them. -/
def handedOn (s : List Char) : List Char :=
  let behind := s.dropWhile fun c => Text.isWordChar c || c = '.'
  match behind with
  | [] => "()".toList
  | '(' :: rest => if rest.getLast? = some ')' && !rest.contains '\n' then behind else s
  | _ => s

/-- Checks what a tag hands on, if it does. -/
def Opened.check (t : Opened) : Except Fault Unit :=
  match t.name, t.given with
  | '@' :: _, some given =>
    if given.isEmpty || Value.isWritten (handedOn (Text.stripChars given)) then .ok ()
    else .error .tag
  | _, _ => .ok ()

/-- Whether the words of a tag ask for a colour with a part that is no number. -/
def Opened.isFaulty (t : Opened) : Bool :=
  t.given.any fun given => Look.isFaulty (t.name ++ ' ' :: given)

/-- The normal form of the name of a tag. -/
def normalName (s : List Char) : Except Fault (List Char) :=
  (Look.normal s).mapError fun _ => .colour

/-- The last open tag of a name, and the others.  Without a name it is the last one of all. -/
def close (name : List Char) (opened : List Opened) : Except Fault (Opened × List Opened) :=
  if name.isEmpty then
    match opened with
    | [] => .error .tag
    | last :: others => .ok (last, others)
  else do
    let name ← normalName name
    match opened.find? (·.name = name) with
    | some last => return (last, opened.erase last)
    | none => .error .tag

/-- The text of pieces and all tags in them, where `opened` are the open tags before them, the
last one first. -/
def textOf (opened : List Opened) : List Piece → Except Fault (List Char × List Opened)
  | [] => .ok ([], opened)
  | .text s :: rest => (textOf opened rest).map fun (t, tags) => (shown s ++ t, tags)
  | .tag s :: rest => do
    let name := s.takeWhile (· ≠ '=')
    match name with
    | '/' :: name =>
      let (last, others) ← close (Text.stripChars name) opened
      last.check
      (textOf others rest).map fun (t, tags) => (t, last :: tags)
    | name =>
      let given := if s.contains '=' then some (s.drop (name.length + 1)) else none
      textOf (⟨← normalName name, given⟩ :: opened) rest

/-- The text of a text with markup. -/
def plain (s : List Char) : Except Fault (List Char) :=
  match textOf [] (pieces [] s) with
  | .ok (text, tags) => if tags.any Opened.isFaulty then .error .colour else .ok text
  | .error fault => .error fault

/-! ## Escaping -/

/-- A text with its tags escaped. -/
def escapeTags (s : List Char) : List Char :=
  match _h : escapedTag? s with
  | some (n, name, rest) =>
    List.replicate (2 * n + 1) '\\' ++ '[' :: name ++ ']' :: escapeTags rest
  | none =>
    match s with
    | [] => []
    | c :: s => c :: escapeTags s
termination_by s.length
decreasing_by
  · exact length_of_escapedTag? _h
  · simp

/-- A text to be put among markup.  A single backslash at its end is doubled, so
that it escapes nothing behind it. -/
def escape (s : List Char) : List Char :=
  let s := escapeTags s
  match s.reverse with
  | '\\' :: '\\' :: _ => s
  | '\\' :: _ => s ++ ['\\']
  | _ => s

/-! ## Small facts -/

/-- Without brackets no backslash is dropped. -/
theorem replace_of_no_bracket {s : List Char} (h : '[' ∉ s) :
    Text.replace ['\\', '['] ['['] s = s := by
  change Text.replaceAll '\\' ['['] ['['] s = s
  induction s with
  | nil => rw [Text.replaceAll]
  | cons c s ih =>
    rw [Text.replaceAll]
    split
    · next rest hrest =>
      have := Text.eq_append_of_dropExpected? hrest
      simp_all
    · rw [ih (by simp at h; exact h.2)]

end Tweaks.Console.Markup
