import Tweaks.Text.Lines

/-!
# Filling up

Texts made as wide as asked for: in the middle of a line of dashes, or by a character beside
them; and what ends their lines.
-/

namespace Tweaks.Text

/-! ## Rules -/

/-- A text between dashes that fill up a width.  Of an odd number of dashes the
one more stands on the right. -/
def ruleChars (width : Nat) (s : List Char) : List Char :=
  let missing := width - s.length
  List.replicate (missing / 2) '-' ++ s ++ List.replicate (missing - missing / 2) '-'

/-- A text between dashes that fill up a width. -/
def rule (width : Nat) (s : String) : String :=
  String.ofList (ruleChars width s.toList)

/-- The width of a rule where nothing else is asked for. -/
def usualWidth : Nat := 60

/-! ## Other characters -/

/-- A text with a character behind it until it is wide enough. -/
def padRight (fill : Char) (width : Nat) (s : List Char) : List Char :=
  s ++ List.replicate (width - s.length) fill

/-- A text with a character before it until it is wide enough. -/
def padLeft (fill : Char) (width : Nat) (s : List Char) : List Char :=
  List.replicate (width - s.length) fill ++ s

/-- A text between characters that fill up a width.  Of an odd number of them the
one more stands on the left exactly if the width is odd too. -/
def centered (fill : Char) (width : Nat) (s : List Char) : List Char :=
  let missing := width - s.length
  let left := missing / 2 + (if missing % 2 = 1 && width % 2 = 1 then 1 else 0)
  List.replicate left fill ++ s ++ List.replicate (missing - left) fill

/-- A number's digits with zeros before them, behind a sign if there is one. -/
def zeroFilled (width : Nat) (s : List Char) : List Char :=
  match s with
  | [] => padLeft '0' width []
  | c :: digits =>
    if c = '+' || c = '-' then c :: padLeft '0' (width - 1) digits else padLeft '0' width s

/-- The characters that end lines of running text. -/
def endsLine (c : Char) : Bool :=
  isBreak c || ['\x0b', '\x0c', '\x1c', '\x1d', '\x1e', '\x85', '\u2028', '\u2029'].contains c

end Tweaks.Text
