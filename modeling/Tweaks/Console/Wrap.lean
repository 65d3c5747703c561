import Tweaks.Text.Blank
import Tweaks.Text.Cell
import Tweaks.Text.Lines

/-!
# Lines of a terminal

Cuts texts into lines that fit a width in cells.  Words are put on a line while
they fit, each with the blanks behind it.  A word wider than a line is either cut
into lines of its own or left too wide.
-/

namespace Tweaks.Console

open Text (isBlank cells Cluster)

/-- The number of cells in a line of the terminal. -/
def width : Nat := 200

/-- The distance of tab stops. -/
def tabWidth : Nat := 8

/-- Whether a character only controls the terminal. -/
def isControl (c : Char) : Bool :=
  c = '\x07' || c = '\x08' || c = '\x0b' || c = '\x0c' || c = '\r'

/-- A text without the characters that only control the terminal. -/
def withoutControls (s : List Char) : List Char :=
  s.filter fun c => !isControl c

/-- The cells between a column and the next stop for tabs, none at a stop. -/
def toNextStop (column : Nat) : Nat := (tabWidth - column % tabWidth) % tabWidth

/-- The parts of a line between its tabs, put one after the other from a column on, with blanks
up to the next stop for every tab, at least one. -/
def joinParts (column : Nat) : List (List Char) → List Char
  | [] => []
  | [part] => part
  | part :: parts =>
    let part := part ++ [' ']
    let column := column + cells part
    let missing := toNextStop column
    part ++ List.replicate missing ' ' ++ joinParts (column + missing) parts

/-- A line with blanks in place of its tabs. -/
def expandTabs (s : List Char) : List Char :=
  joinParts 0 (Text.splitWhere (· = '\t') s)

/-- The words of a text, each with the blanks behind it, and the first one also
with those before it. -/
def words (s : List Char) : List (List Char) :=
  match _h : s.dropWhile isBlank with
  | [] => []
  | c :: t =>
    let bare := t.takeWhile fun c => !isBlank c
    let behind := t.dropWhile fun c => !isBlank c
    (s.takeWhile isBlank ++ c :: bare ++ behind.takeWhile isBlank) ::
      words (behind.dropWhile isBlank)
termination_by s.length
decreasing_by
  have h₁ := (List.dropWhile_sublist isBlank (l := s)).length_le
  have h₂ := (List.dropWhile_sublist (fun c => !isBlank c) (l := t)).length_le
  have h₃ := (List.dropWhile_sublist isBlank
    (l := t.dropWhile fun c => !isBlank c)).length_le
  rw [_h] at h₁
  simp at h₁
  omega

/-- Clusters cut into pieces that fit the width.  `line` is the piece so far, which takes
`used` cells. -/
def chop (width : Nat) (line : List Char) (used : Nat) : List Cluster → List (List Char)
  | [] => [line]
  | c :: s =>
    if width < used + c.width then line :: chop width c.chars c.width s
    else chop width (line ++ c.chars) (used + c.width) s

/-- The text without the blanks it ends with. -/
def dropBlankEnd (s : List Char) : List Char :=
  (s.reverse.dropWhile isBlank).reverse

/-- A line, unless there is nothing on it. -/
def lineIfAny (line : List Char) : List (List Char) :=
  if line.isEmpty then [] else [line]

/-- Puts words on lines.  `line` is the line so far, which takes `used` cells. -/
def fill (width : Nat) (fold : Bool) (line : List Char) (used : Nat) :
    List (List Char) → List (List Char)
  | [] => [line]
  | word :: rest =>
    let bare := cells (dropBlankEnd word)
    if used + bare ≤ width then fill width fold (line ++ word) (used + cells word) rest
    else if width < bare && fold then
      let pieces := chop width [] 0 (Text.clusters word)
      let last := pieces.getLastD []
      lineIfAny line ++ pieces.dropLast ++ fill width fold last (cells last) rest
    else lineIfAny line ++ fill width fold word (cells word) rest

/-- A line without the blanks at its end that make it longer than the width. -/
def trimEnd (width : Nat) (line : List Char) : List Char :=
  let blanks := line.length - (dropBlankEnd line).length
  line.take (line.length - min blanks (line.length - width))

/-- The start of a text that takes the given cells.  A blank stands for half of a cluster. -/
def cut : (room : Nat) → List Cluster → List Char
  | 0, _ => []
  | room, [] => List.replicate room ' '
  | room, c :: s => if c.width ≤ room then c.chars ++ cut (room - c.width) s else [' ']

/-- A line that is cut where it is too wide. -/
def crop (width : Nat) (line : List Char) : List Char :=
  if width < cells line then cut width (Text.clusters line) else line

/-- A text, without breaks, in lines of the width. -/
def wrapLine (width : Nat) (fold : Bool) (s : List Char) : List (List Char) :=
  let s := expandTabs s
  let lines := match words s with
    | [] => [s]
    | words => fill width fold [] 0 words
  lines.map fun line =>
    let line := trimEnd width line
    if fold then crop width line else line

/-- A text in lines of the width. -/
def wrap (width : Nat) (fold : Bool) (s : List Char) : List (List Char) :=
  (Text.splitLines (withoutControls s)).flatMap (wrapLine width fold)

/-! ## Lines of one width -/

/-- A line that is cut where it is too wide, with a mark at the cut. -/
def shorten (width : Nat) (line : List Char) : List Char :=
  if width < cells line then cut (width - 1) (Text.clusters line) ++ ['…'] else line

/-- A line with blanks up to the width. -/
def pad (width : Nat) (line : List Char) : List Char :=
  line ++ List.replicate (width - cells line) ' '

/-- A text as it is printed. -/
def print (s : String) : String :=
  String.ofList ((wrap width true s.toList).flatMap fun line => line ++ ['\n'])

end Tweaks.Console
