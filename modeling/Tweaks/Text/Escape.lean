import Tweaks.Text.CharacterName
import Tweaks.Text.HalfPair
import Tweaks.Text.Markup

/-!
# Characters behind backslashes

What a backslash and what follows it stand for: a character that is spelled by a letter, by its
number to the base eight or sixteen, or by its name.
-/

namespace Tweaks.Text

/-- What a letter or sign behind a backslash stands for. -/
def simpleEscapes : List (Char × List Char) := [
  ('\n', []), ('\\', ['\\']), ('\x27', ['\x27']), ('\x22', ['\x22']), ('a', ['\x07']),
  ('b', ['\x08']), ('f', ['\x0c']), ('n', ['\n']), ('r', ['\r']), ('t', ['\t']), ('v', ['\x0b'])]

/-- How many hexadecimal digits follow a letter behind a backslash, if it asks for some. -/
def hexEscapeWidth? (c : Char) : Option Nat :=
  [('x', 2), ('u', 4), ('U', 8)].lookup c

/-- The character that so many hexadecimal digits spell, or how many of them there are if they
spell none. -/
def hexEscape (count : Nat) (s : List Char) : Except Nat Char :=
  let digits := (s.take count).takeWhile fun c => (hexDigit? c).isSome
  match if digits.length = count then numbered? (hexValue digits) else none with
  | some c => .ok c
  | none => .error digits.length

/-- The character that a name between braces stands for, and how many characters spell it; or how
many of them are to blame. -/
def nameEscape (s : List Char) : Except Nat (Char × Nat) :=
  match s with
  | '{' :: s =>
    let name := s.takeWhile (· ≠ '}')
    if name.length = s.length then .error (1 + s.length)
    else if name.isEmpty then .error 1
    else
      match named? name with
      | some c => .ok (c, name.length + 2)
      | none => .error (name.length + 2)
  | _ => .error 0

/-- Whether a character is a digit to the base eight. -/
def isOctalDigit (c : Char) : Bool := '0' ≤ c && c ≤ '7'

/-- The number that digits to the base eight spell. -/
def octalValue (digits : List Char) : Nat :=
  digits.foldl (fun n d => 8 * n + (d.toNat - 48)) 0

/-- What stands for the characters behind a backslash, and how many they are; or how many of
them are to blame because they stand for nothing. -/
def escaped : List Char → Except Nat (List Char × Nat)
  | [] => .error 0
  | c :: s =>
    match simpleEscapes.lookup c with
    | some t => .ok (t, 1)
    | none =>
      match hexEscapeWidth? c with
      | some width =>
        match hexEscape width s with
        | .ok d => .ok ([d], 1 + width)
        | .error count => .error (1 + count)
      | none =>
        if c = 'N' then
          match nameEscape s with
          | .ok (d, count) => .ok ([d], 1 + count)
          | .error count => .error (1 + count)
        else if isOctalDigit c then
          let digits := c :: (s.take 2).takeWhile isOctalDigit
          .ok ([Char.ofNat (octalValue digits)], digits.length)
        else .ok (['\\', c], 1)

end Tweaks.Text
