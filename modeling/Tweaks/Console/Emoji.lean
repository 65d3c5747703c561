import Tweaks.Console.Emoji.Names
import Tweaks.Text.Blank
import Tweaks.Text.Case
import Tweaks.Text.Lines

/-!
# Pictures by name

A name between two colons stands for a picture.  A word behind the name says whether it is to
be drawn as a sign of the script or as a picture.

Main results:

- `Emoji.replace_of_no_colon`: a text without colons stays as it is.
-/

namespace Tweaks.Console.Emoji

/-! ## Names -/

/-- The tones of skin, with their names. -/
def tones : List (String × Char) := [
  ("light", '🏻'), ("medium-light", '🏼'), ("medium", '🏽'),
  ("medium-dark", '🏾'), ("dark", '🏿')]

/-- The sign that turns the character before it into a sign of the script. -/
def scriptSign : Char := '\ufe0e'

/-- The sign that turns the character before it into a picture. -/
def pictureSign : Char := '\ufe0f'

/-- A picture with a tone of skin.  The tone stands behind its first character, in place of a
sign that makes it a picture. -/
def toned (tone : Char) : List Char → List Char
  | c :: d :: s => if d = pictureSign then c :: tone :: s else c :: tone :: d :: s
  | s => s ++ [tone]

/-- What a name in the table gives: all names, each with its picture. -/
def entries (picture name : List Char) : List (List Char × List Char) :=
  match name.reverse with
  | '/' :: name =>
    let name := name.reverse
    (name, picture) :: tones.map fun (tone, sign) =>
      (name ++ '_' :: tone.toList ++ "_skin_tone".toList, toned sign picture)
  | '~' :: name =>
    let name := name.reverse
    [(name, picture), ("flag_for_".toList ++ name, picture)]
  | _ => [(name, picture)]

/-- All names of a picture, from its group in the table. -/
def ofGroup (group : List Char) : List (List Char × List Char) :=
  match Text.splitWhere (· = '=') group with
  | [picture, names] => (Text.splitWhere (· = ',') names).flatMap (entries picture)
  | _ => []

/-- All names, each with its picture. -/
def byName : List (List Char × List Char) :=
  emojiLines.flatMap fun line => (Text.splitWhere (· = ' ') line.toList).flatMap ofGroup

/-! ## Texts -/

/-- A text that ends with a given one, without it. -/
def dropEnd? (ending s : List Char) : Option (List Char) :=
  if ending.isSuffixOf s then some (s.take (s.length - ending.length)) else none

/-- A name with what is said about the way to draw it: the name alone, and the sign to be put
behind the picture. -/
def variant (s : List Char) : List Char × List Char :=
  match dropEnd? "-text".toList s with
  | some name => (name, [scriptSign])
  | none =>
    match dropEnd? "-emoji".toList s with
    | some name => (name, [pictureSign])
    | none => (s, [])

/-- What a text between two colons stands for.  A text that is no name stands for itself. -/
def shown (s : List Char) : List Char :=
  let (name, sign) := variant s
  match byName.lookup (Text.small name) with
  | some picture => picture ++ sign
  | none => ':' :: s ++ [':']

/-- Whether a character may stand between two colons. -/
def isInner (c : Char) : Bool := c ≠ ':' && !Text.isBlank c

/-- A text with the pictures that it asks for. -/
def replace : List Char → List Char
  | [] => []
  | c :: s =>
    if c = ':' then
      match _h : s.dropWhile isInner with
      | ':' :: rest => shown (s.takeWhile isInner) ++ replace rest
      | _ => c :: replace s
    else c :: replace s
termination_by s => s.length
decreasing_by
  · have := (List.dropWhile_sublist isInner (l := s)).length_le
    rw [_h] at this
    simp at this ⊢
    omega
  · simp
  · simp

/-- A text without colons stays as it is. -/
theorem replace_of_no_colon {s : List Char} (h : ':' ∉ s) : replace s = s := by
  induction s with
  | nil => rw [replace]
  | cons c s ih =>
    have hc : c ≠ ':' := by rintro rfl; simp at h
    rw [replace, if_neg hc, ih (by simp at h; exact h.2)]

end Tweaks.Console.Emoji
