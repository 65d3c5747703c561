import Tweaks.Console.Wrap
import Tweaks.Text.Rule

/-!
# Tables

Rows of cells under a header, with a title above them and rules around them.  A
column is as wide as its widest cell, with a blank at both sides.  If the whole is
wider than the terminal, the widest columns give way.
-/

namespace Tweaks.Console

open Text (cells)

-- Sums of whole numbers start with the literal zero.
attribute [local instance (5000)] Zero.ofOfNat0

/-- A table of texts.  Every row has as many cells as the header. -/
structure Table where
  title : String
  header : List (List Char)
  rows : List (List (List Char))
deriving Repr

namespace Table

/-! ## Widths -/

/-- The number of cells in the widest line of a text. -/
def widest (s : List Char) : Nat :=
  ((Text.splitWhere Text.endsLine s).map cells).foldl max 0

/-- The number of cells left for columns beside the rules between them. -/
def room (columns : Nat) : Nat := width - (columns + 1)

/-- The width of each column, if all have room. -/
def naturalWidths (t : Table) : List Nat :=
  t.rows.foldl (fun widths row => List.zipWith (fun w cell => max w (widest cell)) widths row)
    (t.header.map fun cell => widest cell)
  |>.map fun w => min (w + 2) (room t.header.length)

/-- A quotient to the nearest number; of two as near the even one. -/
def roundedQuotient (a b : Nat) : Nat :=
  let q := a / b
  if 2 * (a % b) < b then q
  else if b < 2 * (a % b) then q + 1
  else q + q % 2

/-- Takes what is in excess from the columns of the given width, `count` of them,
from each at most `most`. -/
def reduce (widestColumn most : Nat) : (excess count : Nat) → List Nat → List Nat
  | _, _, [] => []
  | excess, count, w :: rest =>
    if w = widestColumn then
      let taken := min most (roundedQuotient excess count)
      (w - taken) :: reduce widestColumn most (excess - taken) (count - 1) rest
    else w :: reduce widestColumn most excess count rest

/-- Lets the widest columns give way until there is room for all. -/
def giveWay : (fuel : Nat) → (room : Nat) → List Nat → List Nat
  | 0, _, widths => widths
  | fuel + 1, room, widths =>
    if widths.sum ≤ room then widths
    else
      let excess := widths.sum - room
      let first := widths.foldl max 0
      let second := (widths.filter (· ≠ first)).foldl max 0
      giveWay fuel room
        (reduce first (min excess (first - second)) excess (widths.count first) widths)

/-- The width of each column. -/
def widths (t : Table) : List Nat :=
  giveWay t.naturalWidths.sum (room t.header.length) t.naturalWidths

/-! ## Lines -/

/-- The lines of a cell in a column. -/
def cellLines (columnWidth : Nat) (s : List Char) : List (List Char) :=
  (wrap (columnWidth - 2) false s).map fun line =>
    ' ' :: pad (columnWidth - 2) (shorten (columnWidth - 2) line) ++ [' ']

/-- A line across the table: a piece for each column, with marks around and
between them. -/
def across (left between right : Char) (parts : List (List Char)) : List Char :=
  left :: Text.joinWith [between] parts ++ [right]

/-- A rule across the table. -/
def ruleLine (left line between right : Char) (widths : List Nat) : List Char :=
  across left between right (widths.map fun w => List.replicate w line)

/-- The lines of a row.  Cells with fewer lines than others are filled up. -/
def rowLines (edge between : Char) (widths : List Nat) (row : List (List Char)) :
    List (List Char) :=
  let columns := List.zipWith cellLines widths row
  let height := (columns.map List.length).foldl max 0
  (List.range height).map fun i =>
    across edge between edge
      (List.zipWith (fun w lines => lines.getD i (List.replicate w ' ')) widths columns)

/-- A text in the middle of a line.  Of an odd number of blanks the one more
stands on the right. -/
def centre (lineWidth : Nat) (s : List Char) : List Char :=
  let missing := lineWidth - cells s
  List.replicate (missing / 2) ' ' ++ s ++ List.replicate (missing - missing / 2) ' '

/-- The lines of a table. -/
def lines (t : Table) : List (List Char) :=
  let widths := t.widths
  centre (widths.sum + t.header.length + 1) t.title.toList ::
    ruleLine '┏' '━' '┳' '┓' widths ::
    rowLines '┃' '┃' widths t.header ++
    ruleLine '┡' '━' '╇' '┩' widths ::
    t.rows.flatMap (rowLines '│' '│' widths) ++
    [ruleLine '└' '─' '┴' '┘' widths]

/-- A table, printed. -/
def print (t : Table) : String :=
  String.ofList (t.lines.flatMap fun line => line ++ ['\n'])

end Table

end Tweaks.Console
