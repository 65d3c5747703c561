import Tweaks.Banner.Marks
import Tweaks.Banner.Part

/-!
# Texts with fields

A text with braces around the names or numbers of values, which are written in their
places: each may go on to a part of the value, and say how the value is laid out.
-/

namespace Tweaks.Banner

/-- A field: what value stands in it, how this is converted, and its layout. -/
structure Field where
  name : List Char
  conversion : Option Char
  layout : List Char
deriving DecidableEq, Repr, Inhabited

/-- A piece of a text with fields. -/
inductive FieldPiece where
  | char (c : Char)
  | field (f : Field)
  /-- A brace that stands alone, or a field without an end. -/
  | broken
deriving DecidableEq, Repr

/-! ## Reading -/

/-- The name in a field, what ended it, and the rest. -/
def fieldName : (inBrackets : Bool) → List Char → Except Fault (List Char × Char × List Char)
  | _, [] => .error .wrongValue
  | true, c :: s => do
    let (name, ending, rest) ← fieldName (c ≠ ']') s
    return (c :: name, ending, rest)
  | false, c :: s =>
    if c = '{' then .error .wrongValue
    else if c = '}' || c = ':' || c = '!' then .ok ([], c, s)
    else do
      let (name, ending, rest) ← fieldName (c = '[') s
      return (c :: name, ending, rest)

/-- The layout in a field, up to the brace that closes the field. -/
def fieldLayout : (depth : Nat) → List Char → Except Fault (List Char × List Char)
  | _, [] => .error .wrongValue
  | 0, '}' :: s => .ok ([], s)
  | depth + 1, '}' :: s => do
    let (layout, rest) ← fieldLayout depth s
    return ('}' :: layout, rest)
  | depth, c :: s => do
    let (layout, rest) ← fieldLayout (if c = '{' then depth + 1 else depth) s
    return (c :: layout, rest)

/-- A field behind its opening brace, and the rest. -/
def readField (s : List Char) : Except Fault (Field × List Char) := do
  let (name, ending, s) ← fieldName false s
  if ending = '}' then return (⟨name, none, []⟩, s)
  else if ending = ':' then do
    let (layout, s) ← fieldLayout 0 s
    return (⟨name, none, layout⟩, s)
  else
    match s with
    | c :: '}' :: s => return (⟨name, some c, []⟩, s)
    | c :: ':' :: s => do
      let (layout, s) ← fieldLayout 0 s
      return (⟨name, some c, layout⟩, s)
    | _ => .error .wrongValue

/-- The pieces of a text with fields, up to one that is broken. -/
def fieldPieces : (fuel : Nat) → List Char → List FieldPiece
  | _, [] => []
  | 0, _ => [.broken]
  | fuel + 1, c :: s =>
    if c = '{' then
      match s with
      | '{' :: s => .char '{' :: fieldPieces fuel s
      | s =>
        match readField s with
        | .ok (f, s) => .field f :: fieldPieces fuel s
        | .error _ => [.broken]
    else if c = '}' then
      match s with
      | '}' :: s => .char '}' :: fieldPieces fuel s
      | _ => [.broken]
    else .char c :: fieldPieces fuel s

/-! ## Values -/

/-- How fields without a name or number are counted. -/
inductive Counting where
  | open
  /-- Fields have no numbers; so many have been counted. -/
  | counted (next : Nat)
  /-- Fields have numbers. -/
  | given
deriving DecidableEq, Repr

/-- What stands in fields. -/
structure FieldValues where
  /-- The values of fields with numbers, if there may be such. -/
  places : Option (List Value)
  /-- The value of a field with a name. -/
  named : String → Run Value
  /-- Whether values are escaped. -/
  isMarkup : Bool

/-- A part of a value that is asked for in a field. -/
def fieldPart (v : Value) (name : String) : Run Value := do
  match ← attribute? v name with
  | some found => return found
  | none => Run.fail (if v.isMissing then .missing else .noPart)

/-- An item of a value that is asked for in a field. -/
def fieldItem (v : Value) (key : List Char) : Run Value :=
  let isPlace := !key.isEmpty && key.all Text.isDecimalDigit
  let k := if isPlace then Value.number (Text.digitsValue key) else .text (String.ofList key)
  Run.reading fun w => subscript w v k

/-- What a field asks for behind the value's name. -/
def fieldPath : (fuel : Nat) → Value → List Char → Run Value
  | _, v, [] => return v
  | 0, _, _ => Run.fail .tooDeep
  | fuel + 1, v, '.' :: s => do
    let name := s.takeWhile fun c => c ≠ '.' && c ≠ '['
    if name.isEmpty then Run.fail .wrongValue
    else fieldPath fuel (← fieldPart v (String.ofList name)) (s.drop name.length)
  | fuel + 1, v, '[' :: s => do
    let key := s.takeWhile (· ≠ ']')
    if key.isEmpty || key.length = s.length then Run.fail .wrongValue
    else fieldPath fuel (← fieldItem v key) (s.drop (key.length + 1))
  | _ + 1, _, _ => Run.fail .wrongValue

/-- The value of a field with a number. -/
def FieldValues.at (values : FieldValues) (n : Nat) : Run Value :=
  Run.lift (match values.places with
    | some places => orFault .noPlace places[n]?
    | none => .error .wrongValue)

/-- How fields are counted behind one with a name or number, and the number if it has one.  In
marked-up text what is asked for behind the number belongs to it. -/
def Counting.step (isMarkup : Bool) (counting : Counting) (first path : List Char) :
    Except Fault (Option Nat × Counting) :=
  let isBare := !isMarkup || path.isEmpty
  let number := if first.isEmpty || !first.all Text.isDecimalDigit then none
    else some (Text.digitsValue first)
  if first.isEmpty && isBare then
    match counting with
    | .given => .error .wrongValue
    | .open => .ok (some 0, .counted 1)
    | .counted n => .ok (some n, .counted (n + 1))
  else if isMarkup then
    if isBare && first.all Text.isAnyDigit then
      match counting with
      | .counted _ => .error .wrongValue
      | _ => .ok (number, .given)
    else .ok (number, counting)
  else
    match number, counting with
    | some _, .counted _ => .error .wrongValue
    | some n, _ => .ok (some n, .given)
    | none, counting => .ok (none, counting)

/-- The value that a field asks for, and how fields are counted behind it. -/
def fieldValue (values : FieldValues) (counting : Counting) (name : List Char) :
    Run (Value × Counting) := do
  let first := name.takeWhile fun c => c ≠ '.' && c ≠ '['
  let path := name.drop first.length
  let (number, counting) ← Run.lift (counting.step values.isMarkup first path)
  let v ← (match number with
    | some n => values.at n
    | none => values.named (String.ofList first))
  return (← fieldPath (path.length + 1) v path, counting)

/-- A value as a field converts it. -/
def convert (conversion : Option Char) (v : Value) : Run Value :=
  match conversion with
  | none => return v
  | some c => do
    if c = 's' then return .text (← say v)
    else if c = 'r' then return .text (← shown v)
    else if c = 'a' then return .text (String.ofList (asciiOnly (← shown v).toList))
    else Run.fail .wrongValue

/-- How a value is written in a field with a layout: in marked-up text it is escaped. -/
def writeField (isMarkup : Bool) (v : Value) (layout : String) : Run String := do
  if isMarkup then
    match v with
    | .markup s => if layout.isEmpty then return s else Run.fail .wrongValue
    | v => return escapeText (← layValue v layout)
  else layValue v layout

/-- Pieces of a text with their fields written. -/
def writeFields (values : FieldValues) : (depth : Nat) → Counting → List FieldPiece →
    Run (String × Counting)
  | _, counting, [] => return ("", counting)
  | depth, counting, .char c :: rest => do
    let (s, counting) ← writeFields values depth counting rest
    return (String.ofList [c] ++ s, counting)
  | _, _, .broken :: _ => Run.fail .wrongValue
  | 0, _, .field _ :: _ => Run.fail .wrongValue
  | depth + 1, counting, .field f :: rest => do
    let (v, counting) ← fieldValue values counting f.name
    let v ← convert f.conversion v
    let pieces := fieldPieces (f.layout.length + 1) f.layout
    let (layout, counting) ← writeFields values depth counting pieces
    let written ← writeField values.isMarkup v layout
    let (s, counting) ← writeFields values (depth + 1) counting rest
    return (written ++ s, counting)

/-- A text with its fields written. -/
def fillFields (values : FieldValues) (s : String) : Run String := do
  let depth := if values.isMarkup then 3 else 2
  return (← writeFields values depth .open (fieldPieces (s.length + 1) s.toList)).1

end Tweaks.Banner
