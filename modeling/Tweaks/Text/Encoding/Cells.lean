import Tweaks.Text.Encoding.Basic

/-!
# Cells

Encodings with many characters have two octets for most of them.  The octets are the row and
the column of a cell, and the cells are filled by areas: with characters that are listed, with
all characters from a first one on, or with those that another list has left out.
-/

namespace Tweaks.Text

-- Sums of whole numbers start with the literal zero.
attribute [local instance (5000)] Zero.ofOfNat0

/-! ## Contents -/

/-- What fills the cells of an area one by one. -/
inductive Contents where
  /-- Characters in lines of ninety-four; blanks leave cells empty. -/
  | listed (lines : List String)
  /-- The characters from a first one on. -/
  | counted (first : Nat)
  /-- The characters from a first to a last one that are not among some others. -/
  | others (first last : Nat) (lines : List String)
deriving Repr

/-- The number of characters in a line. -/
def lineLength : Nat := 94

/-- For each number from a first one on, whether lines hold the character with this number. -/
def isListed (first last : Nat) (lines : List String) : Array Bool :=
  lines.foldl (fun marks line =>
    line.toList.foldl (fun marks c =>
      if first ≤ c.toNat then marks.setIfInBounds (c.toNat - first) true else marks) marks)
    (Array.replicate (last + 1 - first) false)

/-- The place of the unmarked number that has so many unmarked ones before it. -/
def unmarkedAt? : (count place : Nat) → List Bool → Option Nat
  | _, _, [] => none
  | count, place, true :: marks => unmarkedAt? count (place + 1) marks
  | 0, place, false :: _ => some place
  | count + 1, place, false :: marks => unmarkedAt? count (place + 1) marks

/-- The place of a character in lines. -/
def placeInLines? (c : Char) : (place : Nat) → List String → Option Nat
  | _, [] => none
  | place, line :: lines =>
    if line.contains c then some (place + line.toList.idxOf c)
    else placeInLines? c (place + lineLength) lines

namespace Contents

/-- The character in the cell of a number. -/
def at? (contents : Contents) (i : Nat) : Option Char :=
  match contents with
  | listed lines => do
    let line ← lines[i / lineLength]?
    line.toList[i % lineLength]?.filter (· ≠ ' ')
  | counted first => some (Char.ofNat (first + i))
  | others first last lines =>
    (unmarkedAt? i 0 (isListed first last lines).toList).map fun place => Char.ofNat (first + place)

/-- The number of the first cell of a character. -/
def place? (contents : Contents) (c : Char) : Option Nat :=
  match contents with
  | listed lines => if c = ' ' then none else placeInLines? c 0 lines
  | counted first => if first ≤ c.toNat then some (c.toNat - first) else none
  | others first last lines =>
    if first ≤ c.toNat && c.toNat ≤ last then
      let before := (isListed first last lines).toList.take (c.toNat + 1 - first)
      if before.getLast? = some false then some (before.dropLast.count false) else none
    else none

end Contents

/-! ## Areas -/

/-- Rows and columns of cells, and what fills them row by row. -/
structure Area where
  /-- The first and the last row. -/
  rows : Nat × Nat
  /-- The first and the last column of each stretch of columns. -/
  columns : List (Nat × Nat)
  contents : Contents
deriving Repr

/-- The number of columns in some stretches. -/
def columnCount (columns : List (Nat × Nat)) : Nat :=
  (columns.map fun (first, last) => last + 1 - first).sum

/-- The place of a column among those of some stretches. -/
def columnPlace? (column : Nat) : List (Nat × Nat) → Option Nat
  | [] => none
  | (first, last) :: columns =>
    if first ≤ column && column ≤ last then some (column - first)
    else (columnPlace? column columns).map (· + (last + 1 - first))

/-- The column at a place among those of some stretches. -/
def columnAt (place : Nat) : List (Nat × Nat) → Nat
  | [] => 0
  | (first, last) :: columns =>
    if place < last + 1 - first then first + place
    else columnAt (place - (last + 1 - first)) columns

namespace Area

/-- The character in a cell. -/
def at? (area : Area) (row column : Nat) : Option Char :=
  if area.rows.1 ≤ row && row ≤ area.rows.2 then do
    let place ← columnPlace? column area.columns
    area.contents.at? ((row - area.rows.1) * columnCount area.columns + place)
  else none

/-- The row and the column of the first cell of a character. -/
def place? (area : Area) (c : Char) : Option (Nat × Nat) := do
  let i ← area.contents.place? c
  let count := columnCount area.columns
  let row := area.rows.1 + i / count
  if row ≤ area.rows.2 then some (row, columnAt (i % count) area.columns) else none

/-- The area with larger numbers for its rows and columns. -/
def raised (distance : Nat) (area : Area) : Area where
  rows := (area.rows.1 + distance, area.rows.2 + distance)
  columns := area.columns.map fun (first, last) => (first + distance, last + distance)
  contents := area.contents

/-- An area of one cell. -/
def cell (row column : Nat) (c : Char) : Area :=
  ⟨(row, row), [(column, column)], .listed [String.singleton c]⟩

end Area

/-! ## Sets of characters -/

/-- A set of characters by its cells.  What stands in an earlier area hides what stands in the
same cell of a later one. -/
structure Charset where
  areas : List Area
  /-- Characters that are not spelled by the cell where they are found first, and by which one
  they are spelled, if they are. -/
  exceptions : List (Char × Option (Nat × Nat))
  /-- Pairs of characters that share a cell. -/
  pairs : List (Char × Char × Nat × Nat)
deriving Repr

namespace Charset

/-- A set without exceptions and pairs. -/
def ofAreas (areas : List Area) : Charset := ⟨areas, [], []⟩

/-- The characters in a cell. -/
def at? (s : Charset) (row column : Nat) : Option (List Char) :=
  match s.pairs.find? fun (_, _, cell) => cell = (row, column) with
  | some (c, d, _) => some [c, d]
  | none => (s.areas.findSome? fun area => area.at? row column).map fun c => [c]

/-- The octets of a character by its cell. -/
def octets? (s : Charset) (c : Char) : Option (List Nat) := do
  let cell ← (s.exceptions.lookup c).getD (s.areas.findSome? fun area => area.place? c)
  return [cell.1, cell.2]

/-- The octets of the pair of characters that a text begins with, and the rest. -/
def pairOctets? (s : Charset) : List Char → Option (List Nat × List Char)
  | c :: d :: rest =>
    (s.pairs.find? fun (c', d', _) => c = c' && d = d').map fun (_, _, row, column) =>
      ([row, column], rest)
  | _ => none

/-- The set with larger numbers for rows and columns. -/
def raised (distance : Nat) (s : Charset) : Charset where
  areas := s.areas.map (·.raised distance)
  exceptions := s.exceptions.map fun (c, cell) =>
    (c, cell.map fun (row, column) => (row + distance, column + distance))
  pairs := s.pairs.map fun (c, d, row, column) => (c, d, row + distance, column + distance)

end Charset

/-! ## Encodings by two octets -/

/-- The octet of a character of ASCII. -/
def asciiOctets? (c : Char) : Option (List Nat) :=
  if c.toNat < 0x80 then some [c.toNat] else none

/-- How texts are spelled by some single octets and by the cells of a set. -/
def cellSpeller (single? : Char → Option (List Nat)) (set : Charset) : Speller Unit :=
  { Speller.ofOctets fun c => (single? c).or (set.octets? c) with
    step? := fun _ s =>
      match set.pairOctets? s with
      | some (octets, rest) => some (octets, (), rest)
      | none => do
        let c ← s.head?
        return (← (single? c).or (set.octets? c), (), s.tail) }

/-- What octets begin with: some stand alone, and two others are a cell of a set. -/
def readCells (single? : Nat → Option Char) (set : Charset) : List Nat → Reading Unit
  | [] => .found [] () []
  | octet :: rest =>
    match single? octet with
    | some c => .found [c] () rest
    | none =>
      match rest with
      | [] => .fault [] 1 ()
      | column :: rest =>
        match set.at? octet column with
        | some s => .found s () rest
        | none => .fault [] 1 ()

/-- The character of an octet of ASCII. -/
def asciiCharacter? (octet : Nat) : Option Char :=
  if octet < 0x80 then some (Char.ofNat octet) else none

/-- The encoding by ASCII and the cells of a set. -/
def Encoding.ofCharset (set : Charset) : Encoding :=
  .ofParts (cellSpeller asciiOctets? set) (.ofStep (readCells asciiCharacter? set))

end Tweaks.Text
