import Tweaks.Text.Encoding.Units
import Tweaks.Text.Octets

/-!
# The encoding in seven bits

The encoding of all characters by octets of ASCII: most characters of ASCII stand for
themselves, and stretches of others are spelled in base 64 between a plus sign and a hyphen or
another character that spells no six bits.
-/

namespace Tweaks.Text

-- Powers of whole numbers are those of the core library.
attribute [local instance (5000)] instPowNat

/-! ## Bits -/

/-- Bits that are still to be spelled or read: their number and how many they are. -/
structure Bits where
  value : Nat
  count : Nat
deriving DecidableEq, Repr

/-- No bits. -/
def Bits.empty : Bits := ⟨0, 0⟩

/-- The octet that spells six bits. -/
def digit64 (n : Nat) : Nat :=
  if n < 26 then 65 + n
  else if n < 52 then 71 + n
  else if n < 62 then n - 4
  else if n = 62 then 43
  else 47

/-- Six bits at a time are spelled when a unit of two octets is added; the rest is left. -/
def Bits.pushUnit (bits : Bits) (unit : Nat) : List Nat × Bits :=
  let value := bits.value * 0x10000 + unit
  let count := bits.count + 16
  let left := count % 6
  let digits := (List.range (count / 6)).map fun i => digit64 (value / 2 ^ left / 64 ^ i % 64)
  (digits.reverse, ⟨value % 2 ^ left, left⟩)

/-- Several units are added. -/
def Bits.pushUnits (bits : Bits) : List Nat → List Nat × Bits
  | [] => ([], bits)
  | unit :: units =>
    let (digits, bits) := bits.pushUnit unit
    let (more, bits) := bits.pushUnits units
    (digits ++ more, bits)

/-- The bits that are left are spelled. -/
def Bits.flush (bits : Bits) : List Nat :=
  if bits.count = 0 then [] else [digit64 (bits.value * 2 ^ (6 - bits.count))]

/-! ## Spelling -/

/-- Whether a character stands for itself. -/
def isDirect (c : Char) : Bool :=
  c = '\t' || c = '\n' || c = '\r' || (' ' ≤ c && c ≤ '}' && c ≠ '+' && c ≠ '\\')

/-- What stands between a stretch and a character that ends it. -/
def stretchEnd (c : Char) : List Nat :=
  if c = '-' || (sextet? c).isSome then [0x2d] else []

/-- The octets of the first character.  In mind are the bits that are left within a stretch. -/
def stepShifted (state : Option Bits) (c : Char) : List Nat × Option Bits :=
  let units := units16 (numberOf c)
  match state with
  | some bits =>
    if isDirect c then (bits.flush ++ stretchEnd c ++ [c.toNat], none)
    else
      let (digits, bits) := bits.pushUnits units
      (digits, some bits)
  | none =>
    if c = '+' then ([0x2b, 0x2d], none)
    else if isDirect c then ([c.toNat], none)
    else
      let (digits, bits) := Bits.empty.pushUnits units
      (0x2b :: digits, some bits)

/-- How texts are spelled. -/
def shiftedSpeller : Speller (Option Bits) where
  start := none
  step? state s := do
    let c ← s.head?
    let (octets, state) := stepShifted state c
    return (octets, state, s.tail)
  finish
    | some bits => bits.flush ++ [0x2d]
    | none => []
  half? _ := none
  takesOctets := true

/-! ## Reading -/

/-- The characters of units.  A first half may wait for its second one. -/
def joinUnits : Option Nat → List Nat → List Char × Option Nat
  | high, [] => ([], high)
  | some high, unit :: units =>
    if isLowHalf unit then
      let (s, waiting) := joinUnits none units
      (Char.ofNat (joinHalves high unit) :: s, waiting)
    else
      let (s, waiting) := if isHighHalf unit then joinUnits (some unit) units
        else ((joinUnits none units).map (((numbered? unit).getD '\x00') :: ·) id)
      (halfPair high :: s, waiting)
  | none, unit :: units =>
    if isHighHalf unit then joinUnits (some unit) units
    else (joinUnits none units).map (((numbered? unit).getD '\x00') :: ·) id

/-- The units that six bits at a time spell, and the bits that are left. -/
def unitsOfSextets (bits : Bits) : List Nat → List Nat × Bits
  | [] => ([], bits)
  | n :: rest =>
    let value := bits.value * 64 + n
    let count := bits.count + 6
    if 16 ≤ count then
      let left := count - 16
      let (units, bits) := unitsOfSextets ⟨value % 2 ^ left, left⟩ rest
      (value / 2 ^ left :: units, bits)
    else unitsOfSextets ⟨value, count⟩ rest

/-- What a stretch begins with, behind its plus sign. -/
def readStretch (octets : List Nat) : Reading Unit :=
  let sextets := (octets.map fun octet => sextet? (Char.ofNat octet)).takeWhile Option.isSome
  let rest := octets.drop sextets.length
  let (units, bits) := unitsOfSextets .empty (sextets.filterMap id)
  let (s, waiting) := joinUnits none units
  let isBroken := 6 ≤ bits.count || bits.value ≠ 0
  match rest with
  | [] =>
    if isBroken || waiting.isSome then .fault s (1 + sextets.length) () else .found s () []
  | octet :: behind =>
    if isBroken then .fault s (2 + sextets.length) ()
    else
      let half := if octet < 0x80 && octet ≠ 0x2b then (waiting.map halfPair).toList else []
      .found (s ++ half) () (if octet = 0x2d then behind else rest)

/-- What octets begin with. -/
def readShifted : List Nat → Reading Unit
  | [] => .found [] () []
  | octet :: rest =>
    if octet = 0x2b then
      match rest with
      | 0x2d :: rest => .found ['+'] () rest
      | first :: _ =>
        if (sextet? (Char.ofNat first)).isSome then readStretch rest else .fault [] 2 ()
      | [] => .found [] () []
    else if octet < 0x80 then .found [Char.ofNat octet] () rest
    else .fault [] 1 ()

/-- The encoding in seven bits. -/
def Encoding.shifted : Encoding :=
  .ofParts shiftedSpeller (.ofStep readShifted)

end Tweaks.Text
