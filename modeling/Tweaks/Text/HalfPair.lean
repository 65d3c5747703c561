/-!
# Halves of pairs

The numbers from D800 to DFFF are no characters: two of them together stand for one that
needs more than sixteen bits.  Where a text names such a half by its number, a character
for private use stands for it.  It is shown by its number and cannot be written out.

These characters, from 10D800 to 10DFFF, are left out otherwise: no text is meant to hold one
for its own sake, since it would be taken for the half.
-/

namespace Tweaks.Text

/-- The distance of a character that stands for a half from the number of the half. -/
def halfDistance : Nat := 0x100000

/-- The character that stands for the half with a number. -/
def halfPair (n : Nat) : Char :=
  Char.ofNat (halfDistance + n)

/-- Whether a number is one half of a pair. -/
def isHalf (n : Nat) : Bool :=
  0xd800 ≤ n && n ≤ 0xdfff

/-- The number of the half that a character stands for, if it stands for one. -/
def halfNumber? (c : Char) : Option Nat :=
  if halfDistance ≤ c.toNat && isHalf (c.toNat - halfDistance) then
    some (c.toNat - halfDistance)
  else none

/-- The character with a number, be it a half; there is none beyond the last one. -/
def numbered? (n : Nat) : Option Char :=
  if isHalf n then some (halfPair n)
  else if n ≤ 0x10ffff then some (Char.ofNat n)
  else none

/-- Whether all characters of a text can be written out: none stands for a half. -/
def isWritable (s : List Char) : Bool :=
  s.all fun c => (halfNumber? c).isNone

/-- A text, if all its characters can be written out. -/
def written? (s : String) : Option String :=
  if isWritable s.toList then some s else none

end Tweaks.Text
