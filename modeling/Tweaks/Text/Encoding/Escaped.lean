import Tweaks.Text.Encoding.Basic
import Tweaks.Text.Escape

/-!
# Encodings with escapes

Two encodings that spell texts by octets of ASCII or by one octet for each of the first
characters, and by backslashes and numbers what is beyond.  They have octets for all texts.
-/

namespace Tweaks.Text

/-! ## Spelling -/

/-- The octets of characters of ASCII. -/
def plainOctets (s : List Char) : List Nat := s.map Char.toNat

/-- A character with an escape for all but printable ASCII. -/
def spellEscaped (c : Char) : List Nat :=
  if c = '\\' then plainOctets ['\\', '\\']
  else if c = '\t' then plainOctets ['\\', 't']
  else if c = '\n' then plainOctets ['\\', 'n']
  else if c = '\r' then plainOctets ['\\', 'r']
  else if ' ' ≤ c && c ≤ '~' then [c.toNat]
  else plainOctets (escapeByNumber (numberOf c))

/-- A character with an escape for those that one octet does not spell. -/
def spellLightly (c : Char) : List Nat :=
  if numberOf c < 0x100 then [numberOf c] else plainOctets (escapeByNumber (numberOf c))

/-! ## Reading -/

/-- What octets begin with, where backslashes stand before escapes of all kinds. -/
def readEscaped : List Nat → Reading Unit
  | 0x5c :: rest =>
    match escaped (rest.map Char.ofNat) with
    | .ok (s, count) => .found s () (rest.drop count)
    | .error count => .fault [] (1 + count) ()
  | octet :: rest => .found [Char.ofNat octet] () rest
  | [] => .found [] () []

/-- What octets begin with, where backslashes stand before numbers of four or eight digits. -/
def readLightly : List Nat → Reading Unit
  | 0x5c :: c :: rest =>
    let width := if c = 0x75 then 4 else if c = 0x55 then 8 else 0
    if width = 0 then .found ['\\', Char.ofNat c] () rest
    else
      match hexEscape width ((rest.take width).map Char.ofNat) with
      | .ok d => .found [d] () (rest.drop width)
      | .error count => .fault [] (2 + count) ()
  | octet :: rest => .found [Char.ofNat octet] () rest
  | [] => .found [] () []

/-! ## Encodings -/

/-- The encoding with escapes for all but printable ASCII. -/
def Encoding.escaped : Encoding :=
  .ofOctets (fun c => some (spellEscaped c)) readEscaped

/-- The encoding with escapes for characters that one octet does not spell. -/
def Encoding.lightlyEscaped : Encoding :=
  .ofOctets (fun c => some (spellLightly c)) readLightly

end Tweaks.Text
