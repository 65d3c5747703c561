/-!
# Octets

Texts spelled by octets, as UTF-8 has it: one octet for a character of ASCII and
two to four for others, never more than are needed.

Octets spelled by texts, as base 64 has it: six bits for a character.  Characters that spell
none are passed over, and padding ends the text.

Main results:

- `decodeOctets?_ascii`: reading an octet of ASCII.
-/

namespace Tweaks.Text

/-- The octets that go on a character, if there are as many as the first octet
announces. -/
def continuation? : (count : Nat) → (read : Nat) → List Nat → Option (Nat × List Nat)
  | 0, read, rest => some (read, rest)
  | count + 1, read, octet :: rest =>
    if 0x80 ≤ octet && octet < 0xc0 then continuation? count (read * 64 + (octet - 0x80)) rest
    else none
  | _ + 1, _, [] => none

/-- Whether a number is a character that needs that many octets. -/
def needsOctets (count n : Nat) : Bool :=
  match count with
  | 0 => true
  | 1 => 0x80 ≤ n
  | 2 => 0x800 ≤ n && !(0xd800 ≤ n && n < 0xe000)
  | _ => 0x10000 ≤ n && n < 0x110000

/-- Reads characters from octets, one at a time. -/
def decodeOctetsWith? : (fuel : Nat) → List Nat → Option (List Char)
  | _, [] => some []
  | 0, _ => none
  | fuel + 1, octet :: rest => do
    let (count, head) ←
      (if octet < 0x80 then some (0, octet)
      else if 0xc0 ≤ octet && octet < 0xe0 then some (1, octet - 0xc0)
      else if 0xe0 ≤ octet && octet < 0xf0 then some (2, octet - 0xe0)
      else if 0xf0 ≤ octet && octet < 0xf8 then some (3, octet - 0xf0)
      else none : Option (Nat × Nat))
    let (n, rest) ← continuation? count head rest
    if needsOctets count n then
      let text ← decodeOctetsWith? fuel rest
      return Char.ofNat n :: text
    else none

/-- The text that octets spell by UTF-8, if they spell one. -/
def decodeOctets? (octets : List Nat) : Option (List Char) :=
  decodeOctetsWith? octets.length octets

/-- An octet of ASCII is a character by itself. -/
theorem decodeOctets?_ascii {octet : Nat} (h : octet < 0x80) (rest : List Nat) :
    decodeOctets? (octet :: rest) = (decodeOctets? rest).map (Char.ofNat octet :: ·) := by
  simp only [decodeOctets?, List.length_cons, decodeOctetsWith?, h, ↓reduceIte, bind,
    Option.bind, continuation?, needsOctets]
  cases decodeOctetsWith? rest.length rest <;> rfl

/-! ## Base 64 -/

/-- The six bits that a character spells. -/
def sextet? (c : Char) : Option Nat :=
  if 'A' ≤ c ∧ c ≤ 'Z' then some (c.toNat - 65)
  else if 'a' ≤ c ∧ c ≤ 'z' then some (c.toNat - 71)
  else if '0' ≤ c ∧ c ≤ '9' then some (c.toNat + 4)
  else if c = '+' then some 62
  else if c = '/' then some 63
  else none

/-- Reads octets.  `place` counts the characters of the current four, `kept` holds
the bits that are left from them, and `pads` counts the marks of padding. -/
def base64With? : (place kept pads : Nat) → List Char → Option (List Nat)
  | place, _, _, [] => if place = 0 then some [] else none
  | place, kept, pads, c :: rest =>
    if c = '=' then
      if 2 ≤ place && 4 ≤ place + pads + 1 then some []
      else base64With? place kept (if 2 ≤ place then pads + 1 else pads) rest
    else
      match sextet? c with
      | none => base64With? place kept pads rest
      | some bits =>
        match place with
        | 0 => base64With? 1 bits 0 rest
        | 1 => (base64With? 2 (bits % 16) 0 rest).map ((kept * 4 + bits / 16) :: ·)
        | 2 => (base64With? 3 (bits % 4) 0 rest).map ((kept * 16 + bits / 4) :: ·)
        | _ => (base64With? 0 0 0 rest).map ((kept * 64 + bits) :: ·)

/-- The octets that a text spells, unless it ends within four characters without
padding. -/
def base64? (text : List Char) : Option (List Nat) :=
  base64With? 0 0 0 text

end Tweaks.Text
