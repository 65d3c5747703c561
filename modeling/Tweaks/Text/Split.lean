import Tweaks.Text.Blank
import Tweaks.Text.Rule
import Tweaks.Text.Replace

/-!
# Splitting and searching

The pieces of a text between separators, between blanks, or by lines, and the places of a
text within another.
-/

namespace Tweaks.Text

/-! ## Places -/

/-- The places at which a text starts within another, counted from the given number. -/
def placesFrom (part : List Char) (place : Nat) : List Char → List Nat
  | [] => if part.isEmpty then [place] else []
  | c :: s =>
    if part.isPrefixOf (c :: s) then place :: placesFrom part (place + 1) s
    else placesFrom part (place + 1) s

/-- The places at which a text starts within another. -/
def placesOf (part s : List Char) : List Nat :=
  placesFrom part 0 s

/-- How often a text is found in another, without looking at what was found again. -/
def countOf (part s : List Char) : Nat :=
  if part.isEmpty then s.length + 1 else (splitOn part s.length s).length - 1

/-! ## Pieces -/

/-- The last pieces of a text between the occurrences of another; `limit` bounds their
number. -/
def splitOnLast (separator : List Char) (limit : Nat) (s : List Char) : List (List Char) :=
  ((splitOn separator.reverse limit s.reverse).map List.reverse).reverse

/-- The words of a text between the characters of a kind; behind as many as allowed the rest
stands as it is. -/
def wordsUpTo (isGap : Char → Bool) : (fuel limit : Nat) → List Char → List (List Char)
  | 0, _, _ => []
  | fuel + 1, limit, s =>
    let s := s.dropWhile isGap
    if s.isEmpty then []
    else
      match limit with
      | 0 => [s]
      | limit + 1 =>
        s.takeWhile (fun c => !isGap c) ::
          wordsUpTo isGap fuel limit (s.dropWhile fun c => !isGap c)

/-- The runs of characters between blanks. -/
def words (s : List Char) : List (List Char) :=
  wordsUpTo isBlank (s.length + 1) s.length s

/-- The words of a text from its end; before as many as allowed the rest stands as it
is. -/
def wordsUpToLast (isGap : Char → Bool) (limit : Nat) (s : List Char) : List (List Char) :=
  ((wordsUpTo isGap (s.length + 1) limit s.reverse).map List.reverse).reverse

/-- The lines of a text with what ends them, the characters of a kind, from what is read of the
first one, backwards. -/
def linesWithEnds (isEnd : Char → Bool) (read : List Char) : List Char → List (List Char)
  | [] => if read.isEmpty then [] else [read.reverse]
  | '\r' :: '\n' :: s => ('\n' :: '\r' :: read).reverse :: linesWithEnds isEnd [] s
  | c :: s =>
    if isEnd c then (c :: read).reverse :: linesWithEnds isEnd [] s
    else linesWithEnds isEnd (c :: read) s

/-- A line without what ends it. -/
def withoutEnd (isEnd : Char → Bool) (line : List Char) : List Char :=
  match line.reverse with
  | '\n' :: '\r' :: before => before.reverse
  | c :: before => if isEnd c then before.reverse else line
  | [] => []

/-- The lines of a text, which characters of a kind end. -/
def linesEndedBy (isEnd : Char → Bool) (s : List Char) : List (List Char) :=
  (linesWithEnds isEnd [] s).map (withoutEnd isEnd)

/-- The lines of running text. -/
def linesOf (s : List Char) : List (List Char) :=
  linesEndedBy endsLine s

/-! ## Tabs -/

/-- A text with blanks instead of tabs, from the given column on. -/
def expandTabs (size : Nat) (column : Nat) : List Char → List Char
  | [] => []
  | c :: s =>
    if c = '\t' then
      let blanks := if size = 0 then 0 else size - column % size
      List.replicate blanks ' ' ++ expandTabs size (column + blanks) s
    else c :: expandTabs size (if c = '\n' || c = '\r' then 0 else column + 1) s

end Tweaks.Text
