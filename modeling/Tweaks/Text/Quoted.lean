import Tweaks.Text.HalfPair
import Tweaks.Text.Printable

/-!
# Quoted texts

How messages show a text: between quotes, with escapes for the quote, the
backslash and everything that is not printable.  Single quotes are used unless
the text holds a single quote and no double quote.

How addresses show one: all octets but those of letters, digits and a few signs stand behind
percent signs by their numbers.
-/

namespace Tweaks.Text

/-- The lower-case hexadecimal digits of a number, at least `width` of them. -/
def hexDigits (width n : Nat) : List Char :=
  let digits := Nat.toDigits 16 n
  List.replicate (width - digits.length) '0' ++ digits

/-- The escape of a character by its number: two, four or eight digits. -/
def escapeByNumber (n : Nat) : List Char :=
  if n < 0x100 then '\\' :: 'x' :: hexDigits 2 n
  else if n < 0x10000 then '\\' :: 'u' :: hexDigits 4 n
  else '\\' :: 'U' :: hexDigits 8 n

/-- A character as it stands between the given quotes.  Half of a pair is shown by its
number. -/
def escapeChar (mark c : Char) : List Char :=
  if c = mark || c = '\\' then ['\\', c]
  else if c = '\t' then ['\\', 't']
  else if c = '\n' then ['\\', 'n']
  else if c = '\r' then ['\\', 'r']
  else if isPrintable c then [c]
  else escapeByNumber ((halfNumber? c).getD c.toNat)

/-- The quote for a text: single, unless the text holds single quotes only. -/
def quoteMark (s : List Char) : Char :=
  if s.contains '\x27' && !s.contains '\x22' then '\x22' else '\x27'

/-- The text between quotes, with escapes. -/
def quoteChars (s : List Char) : List Char :=
  let mark := quoteMark s
  mark :: s.flatMap (escapeChar mark) ++ [mark]

/-- The text between quotes, with escapes. -/
def quote (s : String) : String :=
  String.ofList (quoteChars s.toList)

/-- A text with the halves of pairs in it shown by their numbers. -/
def withoutHalves (s : String) : String :=
  String.ofList (s.toList.flatMap fun c =>
    match halfNumber? c with
    | some n => escapeByNumber n
    | none => [c])

/-- A byte as it stands between the given quotes; only printable ASCII is shown
as it is. -/
def escapeByte (mark : Char) (b : UInt8) : List Char :=
  let c := Char.ofNat b.toNat
  if c = mark || c = '\\' then ['\\', c]
  else if c = '\t' then ['\\', 't']
  else if c = '\n' then ['\\', 'n']
  else if c = '\r' then ['\\', 'r']
  else if 0x20 ≤ b.toNat && b.toNat < 0x7f then [c]
  else '\\' :: 'x' :: hexDigits 2 b.toNat

/-- A byte string between quotes, marked as such by a leading `b`. -/
def quoteBytes (bytes : List UInt8) : String :=
  let mark := quoteMark (bytes.map fun b => Char.ofNat b.toNat)
  String.ofList ('b' :: mark :: bytes.flatMap (escapeByte mark) ++ [mark])

/-! ## Addresses -/

/-- Whether a character of ASCII stands in an address as it is. -/
def isAddressChar (c : Char) : Bool :=
  c.isAlphanum || c = '_' || c = '.' || c = '-' || c = '~'

/-- An octet in an address, of which some more may stand as they are. -/
def percentOctet (kept : List Char) (b : UInt8) : List Char :=
  let c := Char.ofNat b.toNat
  if b.toNat < 128 && (isAddressChar c || kept.contains c) then [c]
  else '%' :: (hexDigits 2 b.toNat).map Char.toUpper

/-- Octets in an address. -/
def addressOctets (kept : List Char) (octets : List UInt8) : String :=
  String.ofList (octets.flatMap (percentOctet kept))

/-- Octets in a question, in which a blank is a plus sign. -/
def questionOctets (octets : List UInt8) : String :=
  String.ofList (octets.flatMap fun b => if b = 0x20 then ['+'] else percentOctet [] b)

/-- A text in an address. -/
def percentEncoded (kept : List Char) (s : String) : String :=
  addressOctets kept s.toUTF8.toList

/-- A text in a question. -/
def questionEncoded (s : String) : String :=
  questionOctets s.toUTF8.toList

end Tweaks.Text
