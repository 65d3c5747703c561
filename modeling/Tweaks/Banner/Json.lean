import Tweaks.Banner.Sorting
import Tweaks.Text.HalfPair

/-!
# Values as JSON

How values are written in JSON, with the entries of mappings in the order of their keys, and
no characters but those of ASCII.
-/

namespace Tweaks.Banner

/-! ## Texts -/

/-- A number of sixteen bits as JSON writes it in a text. -/
def jsonUnit (n : Nat) : List Char :=
  '\\' :: 'u' :: Text.hexDigits 4 n

/-- A character as it stands in a text. -/
def jsonChar (c : Char) : List Char :=
  if c = '\x22' then ['\\', '\x22']
  else if c = '\\' then ['\\', '\\']
  else if c = '\n' then ['\\', 'n']
  else if c = '\r' then ['\\', 'r']
  else if c = '\t' then ['\\', 't']
  else if c = '\x08' then ['\\', 'b']
  else if c = '\x0c' then ['\\', 'f']
  else if 0x20 ≤ c.toNat && c.toNat ≤ 0x7e then [c]
  else
    match Text.halfNumber? c with
    | some n => jsonUnit n
    | none =>
      if c.toNat < 0x10000 then jsonUnit c.toNat
      else
        let n := c.toNat - 0x10000
        jsonUnit (0xd800 + n / 0x400) ++ jsonUnit (0xdc00 + n % 0x400)

/-- A text between quotes. -/
def jsonQuoted (s : String) : String :=
  String.ofList ('\x22' :: s.toList.flatMap jsonChar ++ ['\x22'])

/-! ## Values -/

/-- A decimal number. -/
def jsonDecimal (x : Float) : String :=
  if x.isNaN then "NaN"
  else if x.isInf then (if x < 0 then "-Infinity" else "Infinity")
  else Decimal.text x

/-- A key: one of a few kinds, as a text. -/
def jsonKey (v : Value) : Except Fault String :=
  match v with
  | .text s => .ok (jsonQuoted s)
  | .markup s => .ok (jsonQuoted s)
  | .decimal x => .ok (jsonQuoted (jsonDecimal x))
  | .truth b => .ok (jsonQuoted (if b then "true" else "false"))
  | .none => .ok (jsonQuoted "null")
  | .number n => (numberText n).map jsonQuoted
  | _ => .error .wrongKind

/-- The pieces of a list or mapping between brackets: on one line, or on lines of their own
behind a margin. -/
def jsonBracketed (indent : Option String) (depth : Nat) (opening closing : String)
    (pieces : List String) : String :=
  let line (depth : Nat) (margin : String) : String :=
    "\n" ++ String.join (List.replicate depth margin)
  if pieces.isEmpty then opening ++ closing
  else
    match indent with
    | none => opening ++ Text.join ", " pieces ++ closing
    | some margin =>
      opening ++ line (depth + 1) margin ++ Text.join ("," ++ line (depth + 1) margin) pieces ++
        line depth margin ++ closing

/-- A value in JSON, within the lists and mappings whose places are given.  One that lies
within itself cannot be written. -/
def jsonWithin (w : World) (indent : Option String) : (fuel depth : Nat) →
    (lists mappings : List Nat) → Value → Except Fault String
  | 0, _, _, _, _ => .error .tooDeep
  | fuel + 1, depth, lists, mappings, v =>
    let several (lists mappings : List Nat) (items : List Value) : Except Fault String := do
      let pieces ← mapOk (jsonWithin w indent fuel (depth + 1) lists mappings) items
      return jsonBracketed indent depth "[" "]" pieces
    match v with
    | .none => .ok "null"
    | .truth b => .ok (if b then "true" else "false")
    | .number n => numberText n
    | .decimal x => .ok (jsonDecimal x)
    | .text s => .ok (jsonQuoted s)
    | .markup s => .ok (jsonQuoted s)
    | .tuple items => several lists mappings items
    | .group key items => several lists mappings [key, items]
    | .list place =>
      if lists.contains place then .error .wrongValue
      else several (place :: lists) mappings (w.listAt place)
    | .mapping place =>
      if mappings.contains place then .error .wrongValue
      else do
        let keyed := (w.entriesAt place).map fun (k, v) => (k, Value.tuple [k, v])
        let sorted ← sortByKeys (isOrdered w .less) keyed
        let pieces ← mapOk (fun ((k, entry) : Value × Value) => do
          let key ← jsonKey k
          let v := ((entry.tupleOf?.getD [])[1]?).getD .none
          let written ← jsonWithin w indent fuel (depth + 1) lists (place :: mappings) v
          return key ++ ": " ++ written) sorted
        return jsonBracketed indent depth "\x7b" "\x7d" pieces
    | _ => .error .wrongKind

/-- A value in JSON. -/
def jsonText (w : World) (indent : Option String) (v : Value) : Except Fault String :=
  jsonWithin w indent deepest 0 [] [] v

/-- A character of JSON as it may stand in marked-up text. -/
def jsonSafeChar (c : Char) : List Char :=
  if ['<', '>', '&', '\x27'].contains c then jsonUnit c.toNat else [c]

/-- JSON as it may stand in marked-up text. -/
def jsonSafe (s : String) : String :=
  String.ofList (s.toList.flatMap jsonSafeChar)

end Tweaks.Banner
