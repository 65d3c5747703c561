import Tweaks.Text.Encoding.Japan
import Tweaks.Text.Encoding.Korea

/-!
# Encodings that switch between sets

Encodings in seven bits that have several sets and call one of them by an escape sequence.  A
set is called to the first place, where octets are read from it; or to the second one, from
which they are read between two shift signs; or to the third one, for single characters.
-/

namespace Tweaks.Text

/-! ## Sets that can be called -/

/-- The name of a set in escape sequences: its last octet, and whether it has two octets for
each character. -/
structure SetName where
  mark : Nat
  isDouble : Bool
deriving DecidableEq, Repr

/-- The name of ASCII. -/
def asciiName : SetName := ⟨0x42, false⟩

/-- A set that can be called. -/
structure CalledSet where
  name : SetName
  /-- Whether it is called to the second place. -/
  isSecond : Bool
  /-- The octets of a character. -/
  octets? : Char → Option (List Nat)
  /-- The octets of the pair of characters that a text begins with, and the rest. -/
  pairOctets? : List Char → Option (List Nat × List Char)
  /-- The characters of octets. -/
  at? : List Nat → Option (List Char)

namespace CalledSet

/-- A set with two octets for each character. -/
def double (mark : Char) (isSecond : Bool) (set : Charset) : CalledSet where
  name := ⟨mark.toNat, true⟩
  isSecond
  octets? := set.octets?
  pairOctets? := set.pairOctets?
  at?
    | [row, column] => set.at? row column
    | _ => none

/-- A set with one octet for each character. -/
def single (mark : Char) (octet? : Char → Option Nat) (character? : Nat → Option Char) :
    CalledSet where
  name := ⟨mark.toNat, false⟩
  isSecond := false
  octets? c := (octet? c).map fun octet => [octet]
  pairOctets? _ := none
  at?
    | [octet] => (character? octet).map fun c => [c]
    | _ => none

/-- A set from which only single characters are read, behind an escape sequence. -/
def third (mark : Char) : CalledSet :=
  .single mark (fun _ => none) (fun _ => none)

/-- The number of octets of a character. -/
def width (set : CalledSet) : Nat := if set.name.isDouble then 2 else 1

end CalledSet

/-- The usual set of Japan. -/
def usualCalled : CalledSet := .double 'B' false japanSet

/-- The usual set of Japan by its old name. -/
def oldCalled : CalledSet := .double '@' false japanSet

/-- The supplementary set of Japan. -/
def supplementCalled : CalledSet := .double 'D' false japanSupplementSet

/-- ASCII with two signs of Japan. -/
def romanCalled : CalledSet := .single 'J' romanOctet? romanCharacter?

/-- Letters of half the width. -/
def kanaCalled : CalledSet :=
  .single 'I' (fun c => (kanaOctet? c).map (· - 0x80)) (fun octet => kanaCharacter? (octet + 0x80))

/-- The extended set of Japan. -/
def extendedCalled (isLate : Bool) : CalledSet :=
  .double (if isLate then 'Q' else 'O') false
    { japanExtendedSet isLate with exceptions := [('～', none)] }

/-- The second plane of the extended set. -/
def planeCalled (isLate : Bool) : CalledSet := .double 'P' false (japanPlaneSet isLate)

/-- A set of Korea. -/
def koreaCalled (isSecond : Bool) : CalledSet := .double 'C' isSecond koreaSet

/-- The set of China. -/
def chinaCalled : CalledSet := .double 'A' false chinaSet

/-! ## What has been called -/

/-- The sets in their places, and whether octets are read from the second one. -/
structure Calls where
  first : SetName
  second : SetName
  third : SetName
  isShifted : Bool
  /-- Whether the characters of an unknown escape sequence are passed on. -/
  isPassing : Bool
deriving DecidableEq, Repr

namespace Calls

/-- ASCII is in all places before a text. -/
def start : Calls := ⟨asciiName, asciiName, asciiName, false, false⟩

/-- The octet of escape sequences. -/
def escapeOctet : Nat := 0x1b

/-- The octet that shifts to the second set. -/
def outOctet : Nat := 0x0e

/-- The octet that shifts back. -/
def inOctet : Nat := 0x0f

/-- The octets that call a set. -/
def callOctets (set : CalledSet) : List Nat :=
  let place := if set.isSecond then ')'.toNat else '('.toNat
  if !set.name.isDouble then [escapeOctet, place, set.name.mark]
  else if set.name = usualCalled.name then [escapeOctet, '$'.toNat, set.name.mark]
  else [escapeOctet, '$'.toNat, place, set.name.mark]

/-- The octets that shift back, if octets are read from the second set. -/
def shiftIn (calls : Calls) : List Nat := if calls.isShifted then [inOctet] else []

/-- The octets that call ASCII, unless it is in the first place. -/
def callAscii (calls : Calls) : List Nat :=
  if calls.first = asciiName then [] else [escapeOctet, '('.toNat, asciiName.mark]

/-- The octets that come before a character of a set, and what has been called then. -/
def call (calls : Calls) (set : CalledSet) : List Nat × Calls :=
  if set.isSecond then
    ((if calls.second = set.name then [] else callOctets set) ++
        (if calls.isShifted then [] else [outOctet]),
      { calls with second := set.name, isShifted := true })
  else
    (calls.shiftIn ++ (if calls.first = set.name then [] else callOctets set),
      { calls with first := set.name, isShifted := false })

/-- The octets that end a text. -/
def finish (calls : Calls) : List Nat := calls.shiftIn ++ calls.callAscii

end Calls

/-! ## Spelling -/

/-- The octets of what a text begins with, from the first set that has them, and the rest. -/
def calledOctets? (sets : List CalledSet) (s : List Char) :
    Option (CalledSet × List Nat × List Char) :=
  let pair := sets.findSome? fun set =>
    (set.pairOctets? s).map fun (octets, rest) => (set, octets, rest)
  pair.or do
    let c ← s.head?
    sets.findSome? fun set => (set.octets? c).map fun octets => (set, octets, s.tail)

/-- How texts are spelled. -/
def switchedSpeller (sets : List CalledSet) : Speller Calls where
  start := .start
  step? calls s := do
    let c ← s.head?
    if c.toNat < 0x80 then
      return (calls.callAscii ++ calls.shiftIn ++ [c.toNat],
        { calls with first := asciiName, isShifted := false }, s.tail)
    else
      let (set, octets, rest) ← calledOctets? sets s
      let (before, calls) := calls.call set
      return (before ++ octets, calls, rest)
  finish := Calls.finish
  half? _ := none
  takesOctets := true

/-! ## Escape sequences -/

/-- Whether an octet ends an escape sequence. -/
def endsSequence (octet : Nat) : Bool :=
  ('A'.toNat ≤ octet && octet ≤ 'Z'.toNat) || octet = '@'.toNat

/-- The longest escape sequence. -/
def longestSequence : Nat := 16

/-- How an escape sequence ends. -/
inductive SequenceEnd where
  /-- It has so many octets. -/
  | ends (length : Nat)
  /-- The octets break off. -/
  | breaksOff
  | tooLong
deriving DecidableEq, Repr

/-- The end of an escape sequence from one of its octets on.  The mark of a revision may stand
within it. -/
def sequenceEnd (hasRevisions : Bool) : (fuel place : Nat) → List Nat → SequenceEnd
  | 0, _, _ => .tooLong
  | fuel + 1, place, octets =>
    if longestSequence ≤ place then .tooLong
    else
      match octets with
      | [] => .breaksOff
      | octet :: rest =>
        if endsSequence octet then .ends (place + 1)
        else if hasRevisions && octet = '&'.toNat && rest.head? = some '@'.toNat then
          sequenceEnd hasRevisions fuel (place + 3) (rest.drop 2)
        else sequenceEnd hasRevisions fuel (place + 1) rest

/-- A place to which a set is called. -/
inductive CallPlace where
  | first
  | second
  | third
deriving DecidableEq, Repr

/-- The set that an escape sequence calls, and the place to which it calls it. -/
def calledBy? (hasThird hasRevisions : Bool) (sequence : List Nat) :
    Option (SetName × CallPlace) :=
  match (sequence.drop 1).map Char.ofNat with
  | ['$', mark] => some (⟨mark.toNat, true⟩, .first)
  | ['(', mark] => some (⟨mark.toNat, false⟩, .first)
  | [')', mark] => some (⟨mark.toNat, false⟩, .second)
  | ['.', mark] => if hasThird then some (⟨mark.toNat, false⟩, .third) else none
  | ['$', '(', mark] => some (⟨mark.toNat, true⟩, .first)
  | ['$', ')', mark] => some (⟨mark.toNat, true⟩, .second)
  | [_, _, '\x1b', '$', 'B'] => if hasRevisions then some (usualCalled.name, .first) else none
  | _ => none

/-- A set is called to a place. -/
def Calls.set (calls : Calls) (place : CallPlace) (name : SetName) : Calls :=
  match place with
  | .first => { calls with first := name }
  | .second => { calls with second := name }
  | .third => { calls with third := name }

/-! ## Reading -/

/-- The character of the Greek page, as it was first, of an octet from 128 on. -/
def greekCharacter? (octet : Nat) : Option Char :=
  let same := [0xa0, 0xa3, 0xa6, 0xa7, 0xa8, 0xa9, 0xab, 0xac, 0xad, 0xb0, 0xb1, 0xb2, 0xb3, 0xb7,
    0xbb, 0xbd]
  let gaps := [0xb7, 0xbb, 0xbd, 0xd2]
  if octet < 0xa0 || same.contains octet then some (Char.ofNat octet)
  else if 0xb4 ≤ octet && octet < 0xff && !gaps.contains octet then
    some (Char.ofNat (octet + 0x2d0))
  else [(0xa1, '‘'), (0xa2, '’'), (0xaf, '―')].lookup octet

/-- The single character from the third set that an octet stands for. -/
def thirdCharacter? (name : SetName) (octet : Nat) : Option Char :=
  if name.isDouble then none
  else if name.mark = 'A'.toNat then
    if octet < 0x80 then some (Char.ofNat (octet + 0x80)) else none
  else if name.mark = 'F'.toNat then greekCharacter? (octet ^^^ 0x80)
  else asciiCharacter? octet

/-- What an encoding that switches between sets has. -/
structure Switches where
  sets : List CalledSet
  /-- Whether there is a second place, with signs for shifting. -/
  hasSecond : Bool
  /-- Whether there is a third place, for single characters. -/
  hasThird : Bool

namespace Switches

/-- What follows an escape octet. -/
def readSequence (s : Switches) (calls : Calls) (octets : List Nat) : Reading Calls :=
  match octets[1]? with
  | none => .fault [] 1 calls
  | some kind =>
    if ['(', ')', '$', '.', '&'].contains (Char.ofNat kind) then
      match sequenceEnd (!s.hasSecond) octets.length 1 (octets.drop 1) with
      | .breaksOff => .fault [] octets.length calls
      | .tooLong => .fault [] 1 calls
      | .ends length =>
        match calledBy? s.hasThird (!s.hasSecond) (octets.take length) with
        | some (name, place) =>
          if name = asciiName || s.sets.any (fun set => set.name = name) then
            .found [] (calls.set place name) (octets.drop length)
          else .fault [] length calls
        | none => .fault [] length calls
    else if s.hasThird && kind = 'N'.toNat then
      match octets[2]? with
      | none => .fault [] octets.length calls
      | some octet =>
        match thirdCharacter? calls.third octet with
        | some c => .found [c] calls (octets.drop 3)
        | none => .fault [] 3 calls
    else .found ['\x1b'] { calls with isPassing := true } (octets.drop 1)

/-- What octets begin with that are read from the set in force. -/
def readSet (s : Switches) (calls : Calls) (octets : List Nat) : Reading Calls :=
  let name := if calls.isShifted then calls.second else calls.first
  match s.sets.find? fun set => set.name = name with
  | none => .found (octets.take 1 |>.map Char.ofNat) calls (octets.drop 1)
  | some set =>
    let own := octets.take set.width
    if own.length < set.width then .fault [] own.length calls
    else
      match set.at? own with
      | some characters => .found characters calls (octets.drop set.width)
      | none => .fault [] set.width calls

/-- What octets begin with. -/
def step (s : Switches) (calls : Calls) (octets : List Nat) : Reading Calls :=
  match octets with
  | [] => .found [] calls []
  | octet :: rest =>
    let self := [Char.ofNat octet]
    if calls.isPassing then .found self { calls with isPassing := !endsSequence octet } rest
    else if octet = Calls.escapeOctet then s.readSequence calls octets
    else if s.hasSecond && octet = Calls.inOctet then
      .found [] { calls with isShifted := false } rest
    else if s.hasSecond && octet = Calls.outOctet then
      .found [] { calls with isShifted := true } rest
    else if octet = 0x0a then .found self { calls with isShifted := false } rest
    else if octet < 0x20 then .found self calls rest
    else if 0x80 ≤ octet then .fault [] 1 calls
    else s.readSet calls octets

/-- The encoding. -/
def encoding (s : Switches) : Encoding :=
  .ofParts (switchedSpeller s.sets)
    { start := fun octets => (.start, octets), step := s.step, half? := fun _ => none }

end Switches

/-! ## Encodings -/

/-- An encoding that switches between sets of the first place. -/
def Encoding.switched (sets : List CalledSet) : Encoding :=
  (Switches.mk sets false false).encoding

/-- The encoding that switches between sets of Japan. -/
def Encoding.japanSwitched : Encoding := .switched [usualCalled, romanCalled, oldCalled]

/-- The same with the supplementary set. -/
def Encoding.japanSwitchedSupplement : Encoding :=
  .switched [usualCalled, supplementCalled, romanCalled, oldCalled]

/-- The same with letters of half the width. -/
def Encoding.japanSwitchedKana : Encoding :=
  .switched [usualCalled, supplementCalled, romanCalled, kanaCalled, oldCalled]

/-- The encoding that switches between sets of several countries. -/
def Encoding.japanSwitchedForeign : Encoding :=
  (Switches.mk [usualCalled, supplementCalled, koreaCalled false, chinaCalled, romanCalled,
    oldCalled, .third 'A', .third 'F'] false true).encoding

/-- The encoding that switches between the usual and the extended set. -/
def Encoding.japanSwitchedExtended (isLate : Bool) : Encoding :=
  .switched [usualCalled, extendedCalled isLate, planeCalled isLate]

/-- The encoding that switches between ASCII and the set of Korea. -/
def Encoding.koreaSwitched : Encoding := (Switches.mk [koreaCalled true] true false).encoding

end Tweaks.Text
