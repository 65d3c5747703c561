import Tweaks.Text.CharacterName
import Tweaks.Text.HalfPair
import Tweaks.Text.Quoted

/-!
# Encodings

An encoding spells texts by octets, and reads the texts that octets spell.  Where it has no
octets for a character, or octets spell none, a makeshift says what is done about it.
-/

namespace Tweaks.Text

/-! ## Makeshifts -/

/-- Why a text is not spelled, or octets are not read. -/
inductive Misspelling where
  /-- A character has no octets. -/
  | unspelled
  /-- Octets spell no character. -/
  | unread
  /-- There is no makeshift of the name that is given. -/
  | noMakeshift
  /-- A makeshift is for texts alone, and octets are read. -/
  | onlyForTexts
  /-- An encoding refuses a text, octets or a makeshift as a whole. -/
  | refused
deriving DecidableEq, Repr

/-- What is done about characters without octets, and about octets that spell no characters. -/
inductive Makeshift where
  /-- They break the text off. -/
  | none
  /-- There is no such makeshift, which does not matter as long as none is needed. -/
  | unknown
  | drop
  /-- A question mark stands for each. -/
  | question
  /-- Their numbers stand for them, as in marked-up texts. -/
  | reference
  /-- Their numbers stand for them, behind backslashes. -/
  | escape
  /-- Their names stand for them, behind backslashes. -/
  | name
  /-- The second halves of pairs stand for octets. -/
  | halfOctet
  /-- Halves of pairs are spelled like characters. -/
  | half
deriving DecidableEq, Repr

/-- The makeshifts by their names. -/
def makeshifts : List (String × Makeshift) := [
  ("strict", .none), ("ignore", .drop), ("replace", .question), ("xmlcharrefreplace", .reference),
  ("backslashreplace", .escape), ("namereplace", .name), ("surrogateescape", .halfOctet),
  ("surrogatepass", .half)]

/-- The makeshift of a name. -/
def Makeshift.ofName (name : String) : Makeshift :=
  (makeshifts.lookup name).getD .unknown

/-- The number of a character, be it half of a pair. -/
def numberOf (c : Char) : Nat :=
  (halfNumber? c).getD c.toNat

/-- The escape of a character by its name, or by its number if it has no name. -/
def escapeByName (c : Char) : List Char :=
  match nameOf? (numberOf c) with
  | some name => ("\\N\x7b" ++ name ++ "\x7d").toList
  | .none => escapeByNumber (numberOf c)

/-! ## Spelling -/

/-- How an encoding spells texts.  What it keeps in mind between characters is of any type. -/
structure Speller (σ : Type) where
  /-- What is in mind before the first character. -/
  start : σ
  /-- The octets of what a text begins with, what is in mind behind it, and the rest. -/
  step? : σ → List Char → Option (List Nat × σ × List Char)
  /-- The octets that end a text. -/
  finish : σ → List Nat
  /-- The octets of half of a pair, where halves may be spelled like characters. -/
  half? : Nat → Option (List Nat)
  /-- Whether an octet alone may stand for something. -/
  takesOctets : Bool

namespace Speller

variable {σ : Type}

/-- The octets of a text that needs no makeshift, and what is in mind behind it. -/
def strictly? (p : Speller σ) : (fuel : Nat) → σ → List Char → Option (List Nat × σ)
  | _, state, [] => some ([], state)
  | 0, _, _ => none
  | fuel + 1, state, c :: s => do
    let (octets, state, rest) ← p.step? state (c :: s)
    let (more, state) ← p.strictly? fuel state rest
    return (octets ++ more, state)

/-- The octets that stand for a character without any, and what is in mind behind them. -/
def standIn (p : Speller σ) (m : Makeshift) (state : σ) (c : Char) :
    Except Misspelling (List Nat × σ) :=
  let n := numberOf c
  let orUnspelled {α : Type} (a : Option α) : Except Misspelling α :=
    a.elim (.error .unspelled) .ok
  let text (s : List Char) := orUnspelled (p.strictly? s.length state s)
  match m with
  | .none => .error .unspelled
  | .unknown => .error .noMakeshift
  | .drop => .ok ([], state)
  | .question => text ['?']
  | .reference => text ("&#" ++ toString n ++ ";").toList
  | .escape => text (escapeByNumber n)
  | .name => text (escapeByName c)
  | .halfOctet =>
    if p.takesOctets && 0xdc80 ≤ n && n < 0xdd00 then .ok ([n - 0xdc00], state)
    else .error .unspelled
  | .half => do return (← orUnspelled (p.half? n), state)

/-- The octets of a text from one of its characters on. -/
def spellWith (p : Speller σ) (m : Makeshift) :
    (fuel : Nat) → σ → List Char → Except Misspelling (List Nat)
  | _, state, [] => .ok (p.finish state)
  | 0, _, _ => .error .unspelled
  | fuel + 1, state, c :: s =>
    match p.step? state (c :: s) with
    | some (octets, state, rest) => do return octets ++ (← p.spellWith m fuel state rest)
    | none => do
      let (octets, state) ← p.standIn m state c
      return octets ++ (← p.spellWith m fuel state s)

/-- The octets of a text. -/
def spell (p : Speller σ) (m : Makeshift) (s : List Char) : Except Misspelling (List Nat) :=
  p.spellWith m s.length p.start s

/-- A speller that has nothing in mind and has some octets for each of its characters. -/
def ofOctets (octets? : Char → Option (List Nat)) : Speller Unit where
  start := ()
  step? _ s := do
    let c ← s.head?
    return (← octets? c, (), s.tail)
  finish _ := []
  half? _ := none
  takesOctets := true

end Speller

/-! ## Reading -/

/-- What is found at the beginning of octets. -/
inductive Reading (σ : Type) where
  /-- Some characters, what is in mind behind them, and the rest of the octets. -/
  | found (s : List Char) (state : σ) (rest : List Nat)
  /-- Some characters, and then so many octets from the beginning on that spell none. -/
  | fault (s : List Char) (count : Nat) (state : σ)

/-- How an encoding reads octets.  What it keeps in mind between them is of any type. -/
structure Reader (σ : Type) where
  /-- What is in mind before some octets, and what is left of them behind a sign. -/
  start : List Nat → σ × List Nat
  /-- What some octets begin with. -/
  step : σ → List Nat → Reading σ
  /-- The half of a pair at the beginning of octets, and how many octets it has, where halves
  may be spelled like characters. -/
  half? : List Nat → Option (Nat × Nat)

namespace Reader

variable {σ : Type}

/-- What stands for so many octets at the beginning, and how many octets it stands for. -/
def standIn (r : Reader σ) (m : Makeshift) (octets : List Nat) (count : Nat) :
    Except Misspelling (List Char × Nat) :=
  let faulty := octets.take count
  match m with
  | .none => .error .unread
  | .unknown => .error .noMakeshift
  | .drop => .ok ([], count)
  | .question => .ok (['\ufffd'], count)
  | .reference | .name => .error .onlyForTexts
  | .escape => .ok (faulty.flatMap escapeByNumber, count)
  | .halfOctet =>
    match (faulty.take 4).takeWhile (128 ≤ ·) with
    | [] => .error .unread
    | held => .ok (held.map fun octet => halfPair (0xdc00 + octet), held.length)
  | .half =>
    match r.half? octets with
    | some (n, count) => .ok ([halfPair n], count)
    | none => .error .unread

/-- The text that octets spell from one of them on. -/
def readWith (r : Reader σ) (m : Makeshift) :
    (fuel : Nat) → σ → List Nat → Except Misspelling (List Char)
  | _, _, [] => .ok []
  | 0, _, _ => .error .unread
  | fuel + 1, state, octet :: octets =>
    match r.step state (octet :: octets) with
    | .found s state rest => do return s ++ (← r.readWith m fuel state rest)
    | .fault s count state => do
      let (more, count) ← r.standIn m (octet :: octets) count
      return s ++ more ++ (← r.readWith m fuel state ((octet :: octets).drop count))

/-- The text that octets spell. -/
def read (r : Reader σ) (m : Makeshift) (octets : List Nat) : Except Misspelling (List Char) :=
  let (state, rest) := r.start octets
  r.readWith m rest.length state rest

/-- A reader that has nothing in mind. -/
def ofStep (step : List Nat → Reading Unit) : Reader Unit where
  start octets := ((), octets)
  step _ := step
  half? _ := none

/-- A reader that has a character for each of its octets. -/
def ofCharacters (character? : Nat → Option Char) : Reader Unit :=
  .ofStep fun octets =>
    match octets with
    | [] => .found [] () []
    | octet :: rest =>
      match character? octet with
      | some c => .found [c] () rest
      | none => .fault [] 1 ()

end Reader

/-! ## Encodings -/

/-- An encoding: the octets of a text, and the text of octets. -/
structure Encoding where
  spell : Makeshift → List Char → Except Misspelling (List Nat)
  read : Makeshift → List Nat → Except Misspelling (List Char)

namespace Encoding

/-- An encoding by how it spells and how it reads. -/
def ofParts {σ τ : Type} (p : Speller σ) (r : Reader τ) : Encoding where
  spell := p.spell
  read := r.read

/-- An encoding that has nothing in mind, by the octets of a character and what octets begin
with. -/
def ofOctets (octets? : Char → Option (List Nat)) (step : List Nat → Reading Unit) : Encoding :=
  .ofParts (.ofOctets octets?) (.ofStep step)

end Encoding

end Tweaks.Text
