import Tweaks.Banner.Filter.Basic
import Tweaks.Banner.Json
import Tweaks.Banner.Pretty
import Tweaks.Text.Quoted
import Tweaks.Text.WordWrap

/-!
# Filters that write values

What the filters make of values that are to be read by others: JSON, lines that show a value,
parts of addresses, and attributes of marked-up text.
-/

namespace Tweaks.Banner

/-! ## JSON -/

/-- The margin that an argument asks for. -/
def jsonMargin (v : Value) : Except Fault String :=
  match v.textOf? with
  | some s => .ok s
  | none => do
    let n ← orFault .wrongKind v.integerOf?
    return String.ofList (List.replicate n.toNat ' ')

/-- The value of `tojson`: JSON that may stand in marked-up text. -/
def applyJson (given : Scope) (v : Value) : Run Value :=
  Run.reading fun w => do
    let indent ← (match option given "indent", v.textOf? with
      | some margin, none => (jsonMargin margin).map some
      | some _, some _ => .ok none
      | none, _ => .ok none)
    return .markup (jsonSafe (← jsonText w indent v))

/-! ## Addresses -/

/-- A value as it stands in an address or, with pluses for blanks, in a question. -/
def addressPart (inQuestion : Bool) (v : Value) : Run String := do
  match v with
  | .bytes b => return if inQuestion then Text.questionOctets b else Text.addressOctets ['/'] b
  | v => do
    let s ← say v
    if !Text.isWritable s.toList then Run.fail .notEncodable
    else return if inQuestion then Text.questionEncoded s else Text.percentEncoded ['/'] s

/-- A pair of values as it stands in a question. -/
def questionPair (v : Value) : Run String := do
  match ← itemsOf v with
  | [k, v] => do
    let k ← addressPart true k
    return k ++ "=" ++ (← addressPart true v)
  | _ => Run.fail .wrongValue

/-- Whether a value gives pairs, rather than being said as it is. -/
def givesPairs (w : World) (v : Value) : Bool :=
  match v with
  | .text _ | .markup _ => false
  | .object place =>
    match w.objectAt place with
    | .supply _ _ | .round _ => true
    | _ => false
  | v => (lastingItems w v).toOption.isSome || v.isMissing

/-- The value of `urlencode`. -/
def applyUrlEncode (v : Value) : Run Value := do
  if ← Run.reading fun w => .ok (givesPairs w v) then
    let pairs ← (match v with
      | .mapping _ => entriesValue v
      | v => return v)
    return .text (Text.join "&" (← mapItems questionPair pairs))
  else return .text (← addressPart false v)

/-! ## Attributes -/

/-- Whether there is nothing in a text that may not stand in the name of an attribute. -/
def isAttributeName (s : List Char) : Bool :=
  s.all fun c => !(Text.isGap c || c = '/' || c = '>' || c = '=')

/-- The attributes that entries spell; those without a value are left out. -/
def attributesOf : List (Value × Value) → Run (List String)
  | [] => return []
  | (_, .none) :: rest => attributesOf rest
  | (_, .missing _) :: rest => attributesOf rest
  | (k, v) :: rest => do
    let name ← Run.lift (orFault .wrongKind k.textOf?)
    if !isAttributeName name.toList then Run.fail .wrongValue
    else
      let name ← escape k
      let value ← escape v
      return (name ++ "=\x22" ++ value ++ "\x22") :: (← attributesOf rest)

/-- The pairs that the entries of a value are. -/
def entryPairs (v : Value) : Run (List (Value × Value)) := do
  match v with
  | .mapping place | .proxy place => entriesAt place
  | v => do
    (← itemsOf (← entriesValue v)).mapM fun pair => do
      match ← itemsOf pair with
      | [k, v] => return (k, v)
      | _ => Run.fail .wrongValue

/-- The value of `xmlattr`. -/
def applyAttributes (given : Scope) (v : Value) : Run Value := do
  let written := Text.join " " (← attributesOf (← entryPairs v))
  let space ← flag given "autospace" true
  let s := if space && !written.isEmpty then " " ++ written else written
  return textValue (← Run.reading fun w => .ok w.escapes) s.toList

/-! ## Table -/

/-- The filters that write values. -/
def notationFilters : Filters := [
  ("pprint", .plain fun v => do return .text (← prettyValue v)),
  ("tojson", ⟨["indent"], 0, applyJson⟩),
  ("urlencode", .plain applyUrlEncode),
  ("xmlattr", ⟨["autospace"], 0, applyAttributes⟩)]

end Tweaks.Banner
