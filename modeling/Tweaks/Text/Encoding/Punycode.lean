import Tweaks.Text.Encoding.Basic

/-!
# Punycode

The encoding that spells a text by its characters of ASCII and, behind a hyphen, by numbers that
say which other characters are put in and where.  The numbers are spelled by letters and digits
to the base thirty-six, with a bound for the last digit that adapts to the numbers before.

Main results:

- `threshold_bounds`: the bound is between one and twenty-six.
-/

namespace Tweaks.Text

/-! ## Digits -/

/-- The bound below which the digit at a place is the last one. -/
def threshold (place bias : Nat) : Nat :=
  max 1 (min 26 (36 * (place + 1) - bias))

/-- The bound is between one and twenty-six. -/
theorem threshold_bounds (place bias : Nat) :
    1 ≤ threshold place bias ∧ threshold place bias ≤ 26 := by
  simp only [threshold]
  omega

/-- The octet of a digit: a small letter, or a digit for those from twenty-six on. -/
def punycodeDigit (n : Nat) : Nat := if n < 26 then 97 + n else 22 + n

/-- The digit of an octet. -/
def punycodeDigit? (octet : Nat) : Option Nat :=
  if 97 ≤ octet && octet ≤ 122 then some (octet - 97)
  else if 65 ≤ octet && octet ≤ 90 then some (octet - 65)
  else if 48 ≤ octet && octet ≤ 57 then some (octet - 22)
  else none

/-- The octets of a number, from the digit at a place on. -/
def punycodeNumber (bias place n : Nat) : List Nat :=
  let t := threshold place bias
  if n < t then [punycodeDigit n]
  else
    punycodeDigit (t + (n - t) % (36 - t)) :: punycodeNumber bias (place + 1) ((n - t) / (36 - t))
termination_by n
decreasing_by
  have := threshold_bounds place bias
  exact Nat.lt_of_le_of_lt (Nat.div_le_self _ _) (by omega)

/-! ## Adaption -/

/-- The number of steps in which a number is brought below a bound, and what it becomes. -/
def reduced : (fuel n : Nat) → Nat × Nat
  | 0, n => (0, n)
  | fuel + 1, n =>
    if n ≤ 455 then (0, n)
    else
      let (steps, n) := reduced fuel (n / 35)
      (steps + 1, n)

/-- The bias behind a number. -/
def adaptedBias (n : Nat) (isFirst : Bool) (count : Nat) : Nat :=
  let n := if isFirst then n / 700 else n / 2
  let n := n + n / count
  let (steps, n) := reduced n.log2 n
  36 * steps + 36 * n / (n + 38)

/-- The bias before the first number. -/
def firstBias : Nat := 72

/-! ## Spelling -/

/-- The numbers by which the characters of one number are put in among those before it, and what
is counted behind the last of them. -/
def insertions (number counted : Nat) : List Nat → List Nat × Nat
  | [] => ([], counted)
  | n :: s =>
    if n < number then insertions number (counted + 1) s
    else if n = number then
      let (numbers, left) := insertions number 0 s
      (counted :: numbers, left)
    else insertions number counted s

/-- The numbers by which characters are put in, in the order of their own numbers.  `next` is the
least number that has not been put in, `present` is how many characters there are already. -/
def allInsertions (text : List Nat) (next present counted : Nat) : List Nat → List Nat
  | [] => []
  | number :: rest =>
    let (numbers, left) := insertions number (counted + (number - next) * (present + 1)) text
    numbers ++ allInsertions text (number + 1) (present + numbers.length) (left + 1) rest

/-- The octets of numbers by which characters are put in. -/
def punycodeNumbers (bias present : Nat) (isFirst : Bool) : List Nat → List Nat
  | [] => []
  | n :: rest =>
    punycodeNumber bias 0 n ++
      punycodeNumbers (adaptedBias n isFirst (present + 1)) (present + 1) false rest

/-- The octet of a hyphen. -/
def hyphen : Nat := 0x2d

/-- The octets of a text by the numbers of its characters. -/
def spellPunycode (text : List Nat) : List Nat :=
  let plain := text.filter (· < 128)
  let others := ((text.filter (128 ≤ ·)).mergeSort (· ≤ ·)).eraseDups
  let numbers := allInsertions text 128 plain.length 0 others
  (if plain.isEmpty then [] else plain ++ [hyphen]) ++
    punycodeNumbers firstBias plain.length true numbers

/-! ## Reading -/

/-- The number that octets begin with, and the rest; there is none if they break off or are no
digits. -/
def punycodeNumber? (bias place weight read : Nat) : List Nat → Option (Nat × List Nat)
  | [] => none
  | octet :: rest => do
    let digit ← punycodeDigit? octet
    let t := threshold place bias
    let read := read + digit * weight
    if digit < t then return (read, rest)
    else punycodeNumber? bias (place + 1) (weight * (36 - t)) read rest

/-- The last number of a character. -/
def lastNumber : Nat := 0x10ffff

/-- The characters of a text are put in one by one.  What is wrong breaks the text off, or is
passed over where it may be. -/
def insertAll (isStrict : Bool) :
    (fuel : Nat) → (text : List Nat) → (number place bias : Nat) → (isFirst : Bool) → List Nat →
      Except Misspelling (List Nat)
  | _, text, _, _, _, _, [] => .ok text
  | 0, text, _, _, _, _, _ => .ok text
  | fuel + 1, text, number, place, bias, isFirst, octets =>
    match punycodeNumber? bias 0 1 0 octets with
    | none => if isStrict then .error .refused else .ok text
    | some (n, rest) =>
      let room := text.length + 1
      let number := number + (place + n) / room
      if lastNumber < number && isStrict then .error .refused
      else
        let number := if lastNumber < number then '?'.toNat else number
        let place := (place + n) % room
        let text := text.take place ++ number :: text.drop place
        insertAll isStrict fuel text number (place + 1) (adaptedBias n isFirst text.length) false
          rest

/-- The characters of ASCII before the last hyphen, with a makeshift for others. -/
def plainPart (m : Makeshift) : List Nat → Except Misspelling (List Nat)
  | [] => .ok []
  | octet :: rest => do
    if octet < 128 then return octet :: (← plainPart m rest)
    else
      match m with
      | .drop => plainPart m rest
      | .question => return 0xfffd :: (← plainPart m rest)
      | _ => .error .unread

/-- The numbers of the characters of the text that octets spell. -/
def readPunycode (m : Makeshift) (octets : List Nat) : Except Misspelling (List Nat) := do
  let behind := (octets.reverse.takeWhile (· ≠ hyphen)).reverse
  let before := octets.take (octets.length - behind.length - 1)
  let text ← plainPart m before
  if behind.all (· < 128) then
    insertAll (m = .none) behind.length text 128 0 firstBias true behind
  else .error .unread

/-- The encoding.  Octets are read with few makeshifts. -/
def Encoding.punycode : Encoding where
  spell _ s := .ok (spellPunycode (s.map numberOf))
  read m octets :=
    match m with
    | .none | .drop | .question => do
      return (← readPunycode m octets).map fun n => (numbered? n).getD '\x00'
    | _ => .error .refused

end Tweaks.Text
