import Tweaks.Text.Encoding.Basic

/-!
# Encodings with units

The encodings of all characters by units of one, two or four octets.  Units of several octets
have the larger or the smaller part first, and a sign before the text may say which.
-/

namespace Tweaks.Text

-- Powers of whole numbers are those of the core library.
attribute [local instance (5000)] instPowNat

/-! ## Numbers in octets -/

/-- The octets of a number, as many as asked for, the larger part first or last. -/
def numberOctets (largeFirst : Bool) (count n : Nat) : List Nat :=
  let octets := (List.range count).map fun i => n / 256 ^ i % 256
  if largeFirst then octets.reverse else octets

/-- The number of some octets, the larger part first or last. -/
def octetsNumber (largeFirst : Bool) (octets : List Nat) : Nat :=
  (if largeFirst then octets else octets.reverse).foldl (fun n octet => 256 * n + octet) 0

/-- The number of the sign that may stand before a text. -/
def orderSign : Nat := 0xfeff

/-! ## Units of one octet -/

/-- The octets of a number, be it half of a pair. -/
def units8 (n : Nat) : List Nat :=
  let tail (i : Nat) : Nat := 0x80 + n / 64 ^ i % 64
  if n < 0x80 then [n]
  else if n < 0x800 then [0xc0 + n / 64, tail 0]
  else if n < 0x10000 then [0xe0 + n / 64 ^ (2 : Nat), tail 1, tail 0]
  else [0xf0 + n / 64 ^ (3 : Nat), tail 2, tail 1, tail 0]

/-- The octets of a character that is no half. -/
def spellUnits8 (c : Char) : Option (List Nat) :=
  if (halfNumber? c).isSome then none else some (units8 c.toNat)

/-- How many octets follow the first one of a character, and the bounds of the next one. -/
def followingUnits8? (octet : Nat) : Option (Nat × Nat × Nat) :=
  if octet < 0x80 then some (0, 0, 0)
  else if octet < 0xc2 then none
  else if octet < 0xe0 then some (1, 0x80, 0xc0)
  else if octet < 0xf0 then
    some (2, if octet = 0xe0 then 0xa0 else 0x80, if octet = 0xed then 0xa0 else 0xc0)
  else if octet < 0xf5 then
    some (3, if octet = 0xf0 then 0x90 else 0x80, if octet = 0xf4 then 0x90 else 0xc0)
  else none

/-- The number that is read when so many octets follow, and the rest; or how many octets have
been read when one does not fit. -/
def tailUnits8 (read n : Nat) : (count low high : Nat) → List Nat → Except Nat (Nat × List Nat)
  | 0, _, _, rest => .ok (n, rest)
  | _ + 1, _, _, [] => .error read
  | count + 1, low, high, octet :: rest =>
    if low ≤ octet && octet < high then
      tailUnits8 (read + 1) (64 * n + (octet - 0x80)) count 0x80 0xc0 rest
    else .error read

/-- The part of its number that the first octet of a character gives. -/
def headUnits8 (octet : Nat) : Nat :=
  if octet < 0x80 then octet
  else if octet < 0xe0 then octet - 0xc0
  else if octet < 0xf0 then octet - 0xe0
  else octet - 0xf0

/-- What octets begin with. -/
def readUnits8 : List Nat → Reading Unit
  | [] => .found [] () []
  | octet :: rest =>
    match followingUnits8? octet with
    | none => .fault [] 1 ()
    | some (count, low, high) =>
      match tailUnits8 1 (headUnits8 octet) count low high rest with
      | .ok (n, rest) => .found [Char.ofNat n] () rest
      | .error read => .fault [] read ()

/-- The half of a pair that three octets spell like a character. -/
def halfUnits8? : List Nat → Option (Nat × Nat)
  | 0xed :: b :: c :: _ =>
    if 0xa0 ≤ b && b < 0xc0 && 0x80 ≤ c && c < 0xc0 then
      some (0xd000 + 64 * (b - 0x80) + (c - 0x80), 3)
    else none
  | _ => none

/-- Octets without a sign before them. -/
def withoutSign8 : List Nat → List Nat
  | 0xef :: 0xbb :: 0xbf :: rest => rest
  | octets => octets

/-- The encoding by units of one octet, with or without a sign before the text. -/
def Encoding.units8 (isMarked : Bool) : Encoding :=
  let speller : Speller Unit :=
    { Speller.ofOctets spellUnits8 with half? := fun n => some (Text.units8 n) }
  let reader : Reader Unit :=
    { Reader.ofStep readUnits8 with
      start := fun octets => ((), if isMarked then withoutSign8 octets else octets)
      half? := halfUnits8? }
  { spell := fun m s => do
      return (if isMarked then Text.units8 orderSign else []) ++ (← speller.spell m s)
    read := reader.read }

/-! ## Units of two octets -/

/-- The halves of a number beyond those of two octets. -/
def halves (n : Nat) : Nat × Nat :=
  (0xd800 + (n - 0x10000) / 0x400, 0xdc00 + (n - 0x10000) % 0x400)

/-- The number of two halves. -/
def joinHalves (high low : Nat) : Nat :=
  0x10000 + 0x400 * (high - 0xd800) + (low - 0xdc00)

/-- The units of two octets of a number. -/
def units16 (n : Nat) : List Nat :=
  if n < 0x10000 then [n] else [(halves n).1, (halves n).2]

/-- The octets of a character that is no half. -/
def spellUnits16 (largeFirst : Bool) (c : Char) : Option (List Nat) :=
  if (halfNumber? c).isSome then none
  else some ((units16 c.toNat).flatMap (numberOctets largeFirst 2))

/-- Whether a number is a first half. -/
def isHighHalf (n : Nat) : Bool := 0xd800 ≤ n && n < 0xdc00

/-- Whether a number is a second half. -/
def isLowHalf (n : Nat) : Bool := 0xdc00 ≤ n && n < 0xe000

/-- What octets begin with. -/
def readUnits16 (largeFirst : Bool) : List Nat → Reading Bool
  | a :: b :: rest =>
    let n := octetsNumber largeFirst [a, b]
    if isHighHalf n then
      match rest with
      | c :: d :: rest =>
        let m := octetsNumber largeFirst [c, d]
        if isLowHalf m then .found [Char.ofNat (joinHalves n m)] largeFirst rest
        else .fault [] 2 largeFirst
      | rest => .fault [] (2 + rest.length) largeFirst
    else if isLowHalf n then .fault [] 2 largeFirst
    else .found [Char.ofNat n] largeFirst rest
  | octets => .fault [] octets.length largeFirst

/-! ## Units of four octets -/

/-- The octets of a character that is no half. -/
def spellUnits32 (largeFirst : Bool) (c : Char) : Option (List Nat) :=
  if (halfNumber? c).isSome then none else some (numberOctets largeFirst 4 c.toNat)

/-- What octets begin with. -/
def readUnits32 (largeFirst : Bool) : List Nat → Reading Bool
  | a :: b :: c :: d :: rest =>
    let n := octetsNumber largeFirst [a, b, c, d]
    if isHalf n || 0x110000 ≤ n then .fault [] 4 largeFirst
    else .found [Char.ofNat n] largeFirst rest
  | octets => .fault [] octets.length largeFirst

/-! ## The order of octets -/

/-- Which part is first in octets, and what is left of them behind a sign that says so. -/
def startUnits (count : Nat) (octets : List Nat) : Bool × List Nat :=
  let sign := octets.take count
  if sign = numberOctets false count orderSign then (false, octets.drop count)
  else if sign = numberOctets true count orderSign then (true, octets.drop count)
  else (false, octets)

/-- The half of a pair that a unit spells like a character. -/
def halfUnit? (count : Nat) (largeFirst : Bool) (octets : List Nat) : Option (Nat × Nat) :=
  let unit := octets.take count
  let n := octetsNumber largeFirst unit
  if unit.length = count && isHalf n then some (n, count) else none

/-- The encoding by units of two or four octets, which are spelled and read in one order. -/
def Encoding.ordered (count : Nat) (largeFirst : Bool)
    (octets? : Bool → Char → Option (List Nat)) (step : Bool → List Nat → Reading Bool) :
    Encoding :=
  let speller : Speller Unit :=
    { Speller.ofOctets (octets? largeFirst) with
      half? := fun n => some (numberOctets largeFirst count n)
      takesOctets := false }
  let reader : Reader Bool :=
    { start := fun octets => (largeFirst, octets)
      step
      half? := halfUnit? count largeFirst }
  .ofParts speller reader

/-- The encoding by units of two or four octets with a sign before the text. -/
def Encoding.signed (count : Nat) (ordered : Bool → Encoding) : Encoding where
  spell m s := do
    return numberOctets false count orderSign ++ (← (ordered false).spell m s)
  read m octets :=
    let (largeFirst, rest) := startUnits count octets
    (ordered largeFirst).read m rest

/-- The encoding by units of two octets in one order. -/
def Encoding.units16 (largeFirst : Bool) : Encoding :=
  .ordered 2 largeFirst spellUnits16 readUnits16

/-- The encoding by units of four octets in one order. -/
def Encoding.units32 (largeFirst : Bool) : Encoding :=
  .ordered 4 largeFirst spellUnits32 readUnits32

end Tweaks.Text
