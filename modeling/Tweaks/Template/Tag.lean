import Tweaks.Text.Blank
import Tweaks.Text.Replace

/-!
# Tags

What may stand between double braces: a parameter or the dot, either with any
number of pipes behind it, the start of a block on a parameter, and its end.

Main results:

- `takeName_append`: a name is read whole when no name character follows.
- `length_of_nextPipe?`: reading a pipe uses up characters.
-/

namespace Tweaks.Template

open Text

/-- The characters of parameter names: ASCII letters, digits and the underscore. -/
def isNameChar (c : Char) : Bool :=
  c.isAlphanum || c = '_'

/-- A tag of a template. -/
inductive Tag where
  /-- A parameter's value through some pipes. -/
  | parameter (name : String) (pipes : List String)
  /-- The innermost block's value through some pipes. -/
  | dot (pipes : List String)
  /-- The start of a block that stands only for a value that is not empty. -/
  | opening (name : String)
  /-- The end of the innermost block. -/
  | closing
deriving DecidableEq, Repr

/-- Reads a name: one or more name characters, as many as there are. -/
def takeName? (s : List Char) : Option (String × List Char) :=
  match s.takeWhile isNameChar with
  | [] => none
  | name => some (String.ofList name, s.dropWhile isNameChar)

/-- A run of characters of a kind at the start of a text ends where another character follows the
text, if not before. -/
theorem takeWhile_dropWhile_append_stop {p : Char → Bool} {rest : List Char}
    (hrest : ∀ c ∈ rest.head?, p c = false) (s : List Char) :
    (s ++ rest).takeWhile p = s.takeWhile p ∧ (s ++ rest).dropWhile p = s.dropWhile p ++ rest := by
  induction s with
  | nil =>
    cases rest with
    | nil => simp
    | cons c rest => simp [hrest c (by simp)]
  | cons c s ih =>
    cases hc : p c with
    | true => simp [hc, ih]
    | false => simp [hc]

/-- A run of characters of a kind is read whole when none of them follows. -/
theorem takeWhile_dropWhile_append {p : Char → Bool} {run rest : List Char}
    (hrun : ∀ c ∈ run, p c = true) (hrest : ∀ c ∈ rest.head?, p c = false) :
    (run ++ rest).takeWhile p = run ∧ (run ++ rest).dropWhile p = rest := by
  have hstop : rest.takeWhile p = [] ∧ rest.dropWhile p = rest :=
    takeWhile_dropWhile_append_stop hrest []
  constructor
  · rw [List.takeWhile_append_of_pos hrun, hstop.1, List.append_nil]
  · rw [List.dropWhile_append_of_pos hrun, hstop.2]

/-- A name is read whole when no name character follows. -/
theorem takeName_append {name rest : List Char} (hne : name ≠ [])
    (h : ∀ c ∈ name, isNameChar c = true) (hr : ∀ c ∈ rest.head?, isNameChar c = false) :
    takeName? (name ++ rest) = some (String.ofList name, rest) := by
  obtain ⟨htake, hdrop⟩ := takeWhile_dropWhile_append h hr
  rw [takeName?, htake, hdrop]
  cases name with
  | nil => exact absurd rfl hne
  | cons c name => rfl

/-- Reads a pipe: a bar, which blanks may surround, and a letter with any number
of letters and digits behind it. -/
def nextPipe? (s : List Char) : Option (String × List Char) :=
  match dropBlank s with
  | '|' :: s =>
    match dropBlank s with
    | c :: s =>
      if c.isAlpha then
        some (String.ofList (c :: s.takeWhile Char.isAlphanum), s.dropWhile Char.isAlphanum)
      else none
    | [] => none
  | _ => none

/-- What follows a pipe is shorter than the text that starts with it. -/
theorem length_of_nextPipe? {s rest : List Char} {pipe : String}
    (h : nextPipe? s = some (pipe, rest)) : rest.length < s.length := by
  simp only [nextPipe?] at h
  split at h
  · next t ht =>
    split at h
    · next c u hu =>
      split at h
      · cases h
        have h1 := length_dropBlank_le s
        have h2 := length_dropBlank_le t
        have h3 := (List.dropWhile_sublist Char.isAlphanum (l := u)).length_le
        rw [ht] at h1
        rw [hu] at h2
        simp only [List.length_cons] at h1 h2
        omega
      · cases h
    · cases h
  · cases h

/-- Reads any number of pipes, up to the end of the text. -/
def pipes? (s : List Char) : Option (List String) :=
  if s.isEmpty then some []
  else
    match _h : nextPipe? s with
    | none => none
    | some (pipe, rest) => (pipes? rest).map (pipe :: ·)
termination_by s.length
decreasing_by exact length_of_nextPipe? _h

/-- Reads a tag from an expression without blanks around it. -/
def Tag.ofExpression? (expression : List Char) : Option Tag :=
  match expression with
  | '$' :: s => do
    let (name, rest) ← takeName? s
    let pipes ← pipes? rest
    some (.parameter name pipes)
  | '.' :: s => (pipes? s).map .dot
  | _ =>
    if expression = "end".toList then some .closing
    else do
      let s ← dropExpected? "with".toList expression
      match s with
      | [] => none
      | c :: _ =>
        if isBlank c then
          match dropBlank s with
          | '$' :: s =>
            match takeName? s with
            | some (name, []) => some (.opening name)
            | _ => none
          | _ => none
        else none

end Tweaks.Template
