import Tweaks.Compilation
import Tweaks.Document.Display

/-!
# JSON

Values of JSON and how they are written, with two blanks for each level.
-/

namespace Tweaks

/-- A value of JSON, as far as commands print it. -/
inductive Encoded where
  | null
  | bool (value : Bool)
  | text (value : String)
  | list (items : List Encoded)
  | object (fields : List (String × Encoded))
deriving Repr, Inhabited

namespace Encoded

/-- A character within a text. -/
def escapeChar (c : Char) : List Char :=
  if c = '\x22' then ['\\', '\x22']
  else if c = '\\' then ['\\', '\\']
  else if c = '\n' then ['\\', 'n']
  else if c = '\r' then ['\\', 'r']
  else if c = '\t' then ['\\', 't']
  else if c = '\x08' then ['\\', 'b']
  else if c = '\x0c' then ['\\', 'f']
  else if c.toNat < 0x20 then '\\' :: 'u' :: Text.hexDigits 4 c.toNat
  else [c]

/-- A text between quotes. -/
def quoted (s : String) : String :=
  String.ofList ('\x22' :: s.toList.flatMap escapeChar ++ ['\x22'])

/-- Lines moved to the right by one level. -/
def nested (lines : List String) : List String :=
  lines.map fun line => "  " ++ line

/-- Lines with a comma behind the last one. -/
def withComma : List String → List String
  | [] => []
  | [line] => [line ++ ","]
  | line :: rest => line :: withComma rest

/-- Lines with a text before the first one. -/
def labelled (label : String) : List String → List String
  | [] => [label]
  | line :: rest => (label ++ line) :: rest

mutual

/-- The lines of a value. -/
def lines : Encoded → List String
  | null => ["null"]
  | bool value => [if value then "true" else "false"]
  | text value => [quoted value]
  | list [] => ["[]"]
  | list (item :: items) => "[" :: nested (itemLines (item :: items)) ++ ["]"]
  | object [] => ["\x7b\x7d"]
  | object (field :: fields) => "\x7b" :: nested (fieldLines (field :: fields)) ++ ["\x7d"]

/-- The lines of a list's items, with commas between them. -/
def itemLines : List Encoded → List String
  | [] => []
  | [item] => item.lines
  | item :: items => withComma item.lines ++ itemLines items

/-- The lines of an object's fields, with commas between them. -/
def fieldLines : List (String × Encoded) → List String
  | [] => []
  | [(name, value)] => labelled (quoted name ++ ": ") value.lines
  | (name, value) :: fields =>
    withComma (labelled (quoted name ++ ": ") value.lines) ++ fieldLines fields

end

/-- A value, written out. -/
def write (v : Encoded) : String :=
  Text.join "\n" v.lines

end Encoded

/-- A compiled script in JSON: its name, its direction and its text. -/
def Fragment.encode (f : Fragment) : Encoded :=
  .object [("name", .text f.name), ("direction", .text f.direction.name),
    ("code", .text f.text)]

/-- Compiled scripts in JSON. -/
def encodeFragments (fragments : List Fragment) : String :=
  (Encoded.list (fragments.map Fragment.encode)).write ++ "\n"

/-- Compiled scripts in JSON, unless they cannot be written out. -/
def encodeFragments? (fragments : List Fragment) : Option String :=
  Text.written? (encodeFragments fragments)

end Tweaks
