import Tweaks.Text.Encoding.Punycode
import Tweaks.Text.Encoding.Table.Name
import Tweaks.Text.Letter

/-!
# Names of domains

The encoding for names of domains.  The labels between the dots of a name are spelled one by
one: those of ASCII as they are, and others by punycode behind a mark, after they have been
prepared.  To prepare a label is to make its letters small, to write forms of one character
alike, and to join characters with marks.
-/

namespace Tweaks.Text

/-! ## Forms of characters -/

/-- The mark between what characters become. -/
def formMark : Char := '†'

/-- The parts of a text between marks. -/
def formsBetween (s : List Char) : List (List Char) :=
  s.splitBy (fun c d => c ≠ formMark && d ≠ formMark) |>.filter (· ≠ [formMark])

/-- What a character becomes. -/
def expanded (c : Char) : List Char :=
  let n := numberOf c
  if inRanges n vanishing then []
  else
    let run := (preparedRuns.takeWhile fun (first, _) => first ≤ n).getLast?
    ((run.bind fun (first, forms) => (formsBetween forms.toList)[n - first]?)).getD [c]

/-! ## Marks -/

/-- The class of a mark; zero for what is none. -/
def markClass (c : Char) : Nat :=
  let n := c.toNat
  ((markClasses.find? fun (first, last, _) => first ≤ n && n ≤ last).map (·.2.2)).getD 0

/-- A text whose marks behind each character stand in the order of their classes. -/
def orderedMarks : (fuel : Nat) → List Char → List Char
  | 0, s => s
  | _ + 1, [] => []
  | fuel + 1, c :: s =>
    let isMark (c : Char) : Bool := markClass c ≠ 0
    if isMark c then
      let marks := (c :: s).takeWhile isMark
      marks.mergeSort (fun a b => markClass a ≤ markClass b) ++
        orderedMarks fuel ((c :: s).dropWhile isMark)
    else c :: orderedMarks fuel s

/-- The character with a mark that three characters in a row say. -/
def joinedIn? (c d : Char) : List Char → Option Char
  | a :: b :: joined :: rest => if a = c && b = d then some joined else joinedIn? c d rest
  | _ => none

/-- The syllable of two letters, or of a syllable and a letter. -/
def joinedSyllable? (c d : Char) : Option Char :=
  let n := c.toNat
  let m := d.toNat
  if 0x1100 ≤ n && n < 0x1113 && 0x1161 ≤ m && m < 0x1176 then
    some (Char.ofNat (0xac00 + ((n - 0x1100) * 21 + (m - 0x1161)) * 28))
  else if 0xac00 ≤ n && n < 0xd7a4 && (n - 0xac00) % 28 = 0 && 0x11a8 ≤ m && m < 0x11c3 then
    some (Char.ofNat (n + (m - 0x11a7)))
  else none

/-- The character that two characters are joined to. -/
def joined? (c d : Char) : Option Char :=
  (joinedSyllable? c d).or (joinedIn? c d (joinedMarks.flatMap String.toList))

/-- A text whose characters are joined with their marks, from a character on.  Held are the marks
behind it that have not been joined, the last one first. -/
def joinedFrom (c : Char) (held : List Char) : List Char → List Char
  | [] => c :: held.reverse
  | d :: s =>
    let isFree := match held with
      | [] => true
      | mark :: _ => markClass mark < markClass d
    match if isFree then joined? c d else none with
    | some c => joinedFrom c held s
    | none =>
      if markClass d = 0 then c :: held.reverse ++ joinedFrom d [] s
      else joinedFrom c (d :: held) s

/-- A text whose characters are joined with their marks. -/
def joinedText (s : List Char) : List Char :=
  let isMark (c : Char) : Bool := markClass c ≠ 0
  s.takeWhile isMark ++
    match s.dropWhile isMark with
    | [] => []
    | c :: s => joinedFrom c [] s

/-! ## Labels -/

/-- Whether the directions of the characters of a label do not fit together. -/
def isMixed (s : List Char) : Bool :=
  let isLeft (c : Char) : Bool := inRanges c.toNat leftward
  s.any isLeft && (s.any (fun c => inRanges c.toNat rightward) ||
    !(s.head?.any isLeft && s.getLast?.any isLeft))

/-- A label as it is prepared for spelling, if it may be. -/
def prepared? (s : List Char) : Option (List Char) :=
  let s := s.flatMap expanded
  let s := joinedText (orderedMarks (s.length + 1) s)
  if s.any (fun c => inRanges (numberOf c) refusedInNames) || isMixed s then none else some s

/-- The length that a label must not reach. -/
def labelBound : Nat := 64

/-- The octets of a label, if it is neither empty nor too long. -/
def bounded? (octets : List Nat) : Option (List Nat) :=
  if 0 < octets.length && octets.length < labelBound then some octets else none

/-- Whether all characters of a text are of ASCII. -/
def isAscii (s : List Char) : Bool := s.all fun c => c.toNat < 128

/-- The mark before a label that is spelled by punycode. -/
def domainMark : List Nat := "xn--".toList.map Char.toNat

/-- The octets of a label. -/
def label? (s : List Char) : Option (List Nat) :=
  if isAscii s then bounded? (s.map Char.toNat)
  else do
    let s ← prepared? s
    let numbers := s.map Char.toNat
    if isAscii s then bounded? numbers
    else if domainMark.isPrefixOf numbers then none
    else bounded? (domainMark ++ spellPunycode numbers)

/-! ## Names -/

/-- The parts of a list between its elements of a kind. -/
def partsBetween {α : Type} (isBetween : α → Bool) : List α → List (List α)
  | [] => [[]]
  | a :: s =>
    if isBetween a then [] :: partsBetween isBetween s
    else
      match partsBetween isBetween s with
      | [] => [[a]]
      | part :: parts => (a :: part) :: parts

/-- The octet of a dot. -/
def dot : Nat := 0x2e

/-- Whether a character is a dot between labels. -/
def isDot (c : Char) : Bool := c = '.' || c = '。' || c = '．' || c = '｡'

/-- The labels of a name, and whether a dot stands behind the last one. -/
def labelsOf {α : Type} (labels : List (List α)) : List (List α) × Bool :=
  if labels.getLast?.any List.isEmpty then (labels.dropLast, true) else (labels, false)

/-- The octets of a name. -/
def spellDomain (s : List Char) : Option (List Nat) :=
  if s.isEmpty then some []
  else if isAscii s then
    let labels := partsBetween (· = dot) (s.map Char.toNat)
    if labels.dropLast.all (fun label => (bounded? label).isSome) &&
        labels.getLast?.all (fun label => label.length < labelBound) then
      some (s.map Char.toNat)
    else none
  else do
    let (labels, isEnded) := labelsOf (partsBetween isDot s)
    let labels ← labels.mapM label?
    return List.intercalate [dot] labels ++ if isEnded then [dot] else []

/-- The text of a label. -/
def readLabel (octets : List Nat) : Except Misspelling (List Char) := do
  if domainMark.isPrefixOf octets then
    let numbers ← readPunycode .none (octets.drop domainMark.length)
    let s := numbers.map fun n => (numbered? n).getD '\x00'
    let small := octets.map fun octet => (Char.ofNat octet).toLower.toNat
    if label? s = some small then .ok s else .error .refused
  else if octets.all (· < 128) then .ok (octets.map Char.ofNat)
  else .error .unread

/-- Labels one after the other, up to the first that cannot be read. -/
def readLabels : List (List Nat) → Except Misspelling (List (List Char))
  | [] => .ok []
  | label :: labels => do
    let s ← readLabel label
    return s :: (← readLabels labels)

/-- Whether a list is found within another. -/
def isWithin (part : List Nat) : List Nat → Bool
  | [] => part.isEmpty
  | octet :: octets => part.isPrefixOf (octet :: octets) || isWithin part octets

/-- The text of a name. -/
def readDomain (octets : List Nat) : Except Misspelling (List Char) := do
  if !isWithin domainMark octets && octets.all (· < 128) then return octets.map Char.ofNat
  else
    let (labels, isEnded) := labelsOf (partsBetween (· = dot) octets)
    let labels ← readLabels labels
    return List.intercalate ['.'] labels ++ if isEnded then ['.'] else []

/-- The encoding for names of domains, which knows no makeshift. -/
def Encoding.domain : Encoding where
  spell m s :=
    if m = .none then (spellDomain s).elim (.error .refused) .ok else .error .refused
  read m octets := if m = .none then readDomain octets else .error .refused

end Tweaks.Text
