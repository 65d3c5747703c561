import Tweaks.Banner.Kind
import Tweaks.Banner.Round

/-!
# How values are said

The text of a value, by itself and within others, and what stands for it in marked-up
text.  A list or mapping that holds itself is cut short where it comes again.
-/

namespace Tweaks.Banner

/-- How deep values may lie within each other. -/
def deepest : Nat := 900

/-! ## Within other values -/

/-- A fault where there is no value. -/
def orFault {α : Type} (fault : Fault) : Option α → Except Fault α
  | some a => .ok a
  | none => .error fault

/-- A whole number's text. -/
def numberText (n : Int) : Except Fault String :=
  orFault .wrongValue (Document.integerText? n)

/-- The values of several, as long as there is no fault. -/
def mapOk {α β : Type} (f : α → Except Fault β) : List α → Except Fault (List β)
  | [] => .ok []
  | a :: rest => do
    let b ← f a
    let others ← mapOk f rest
    return b :: others

/-- Texts between brackets. -/
def bracketed (opening closing : String) (texts : List String) : String :=
  opening ++ Document.commas texts ++ closing

/-- What values of a kind do or have, as it is shown. -/
def showTrait (owner : Kind) (name : String) : String :=
  let what := match owner.ownTrait? name with
    | some .method => "method"
    | some .slot => "slot wrapper"
    | some .member => "member"
    | _ => "attribute"
  if owner.isWoven then
    (if what = "attribute" then "<property object>"
      else "<function " ++ owner.name ++ "." ++ name ++ ">")
  else
    "<" ++ what ++ " " ++ Text.quote name ++ " of " ++ Text.quote owner.name ++ " objects>"

/-- A value as it is shown, within the lists and mappings whose places are given. -/
def showWithin : (fuel : Nat) → (lists mappings : List Nat) → Value → Run String
  | 0, _, _, _ => Run.fail .tooDeep
  | fuel + 1, lists, mappings, v =>
    let item := showWithin fuel lists mappings
    let entry (colon : String) (mappings : List Nat) (e : Value × Value) : Run String := do
      let k ← showWithin fuel lists mappings e.1
      return k ++ colon ++ (← showWithin fuel lists mappings e.2)
    let entries (place : Nat) : Run String := do
      if mappings.contains place then return "\x7b...\x7d"
      else
        let texts ← (← entriesAt place).mapM (entry ": " (place :: mappings))
        return bracketed "\x7b" "\x7d" texts
    match v with
    | .none => return "None"
    | .truth b => return if b then "True" else "False"
    | .number n => Run.lift (numberText n)
    | .decimal x => return Decimal.text x
    | .complex x => return x.text
    | .text s => return Text.quote s
    | .markup s => return "Markup(" ++ Text.quote s ++ ")"
    | .bytes b => return Text.quoteBytes b
    | .tuple [v] => do return "(" ++ (← item v) ++ ",)"
    | .tuple items => do return bracketed "(" ")" (← items.mapM item)
    | .group k items => do return bracketed "(" ")" (← [k, items].mapM item)
    | .range first last step => do
      let bounds := if step = 1 then [first, last] else [first, last, step]
      return "range" ++ bracketed "(" ")" (← Run.lift (mapOk numberText bounds))
    | .list place => do
      if lists.contains place then return "[...]"
      else
        let texts ← (← listAt place).mapM (showWithin fuel (place :: lists) mappings)
        return bracketed "[" "]" texts
    | .mapping place => entries place
    | .proxy place => do return "mappingproxy(" ++ (← entries place) ++ ")"
    | .set place => do
      let texts ← (← Run.reading fun w => .ok (w.membersAt place)).mapM item
      return if texts.isEmpty then "set()" else bracketed "\x7b" "\x7d" texts
    | .view .keys place _ => do
      let keys ← (← entriesAt place).mapM fun (k, _) => item k
      return "dict_keys([" ++ Document.commas keys ++ "])"
    | .view .values place _ => do
      let values ← (← entriesAt place).mapM fun (_, v) => item v
      return "dict_values([" ++ Document.commas values ++ "])"
    | .view .entries place _ => do
      let pairs ← (← entriesAt place).mapM (entry ", " mappings)
      return "dict_items([" ++ Document.commas (pairs.map fun s => "(" ++ s ++ ")") ++ "])"
    | .object place => do
      match ← objectAt place with
      | .record entries' => do return "<Namespace " ++ (← entries entries') ++ ">"
      | .round r => do
        return "<LoopContext " ++ Document.numberText r.count ++ "/" ++
          Document.numberText (← Round.measure patience place) ++ ">"
      | .routine r =>
        return "<Macro " ++ (match r.name with
          | some name => Text.quote name
          | none => "anonymous") ++ ">"
      | .cycle _ _ => return "<Cycler>"
      | .separator _ _ => return "<Joiner>"
      | .supply kind _ => return "<" ++ kind ++ ">"
    | .kind k => return "<class " ++ Text.quote k.fullName ++ ">"
    | .alias k parts => do
      let texts ← parts.mapM fun v => match v with
        | .kind k => pure k.fullName
        | v => item v
      return k.fullName ++ (if texts.isEmpty then "[()]" else bracketed "[" "]" texts)
    | .function name => return "<function " ++ name ++ ">"
    | .method name _ _ => return "<built-in method " ++ name ++ ">"
    | .unbound k name => return showTrait k name
    | .field k name => return showTrait k name
    | .unsupported => return "NotImplemented"
    | .banner => return "<TemplateReference None>"
    | .block name => return "<BlockReference " ++ Text.quote name ++ ">"
    | .missing _ => return "Undefined"

/-- A value as it is shown within others. -/
def shown (v : Value) : Run String :=
  showWithin deepest [] [] v

/-! ## By themselves -/

/-- A value as text. -/
def say (v : Value) : Run String :=
  match v with
  | .text s => return s
  | .markup s => return s
  | .missing true => return ""
  | .missing false => Run.fail .missing
  | v => shown v

/-- A character as it stands in marked-up text. -/
def escapedChar (c : Char) : List Char :=
  if c = '&' then "&amp;".toList
  else if c = '<' then "&lt;".toList
  else if c = '>' then "&gt;".toList
  else if c = '\x27' then "&#39;".toList
  else if c = '\x22' then "&#34;".toList
  else [c]

/-- A text as it stands in marked-up text. -/
def escapeText (s : String) : String :=
  String.ofList (s.toList.flatMap escapedChar)

/-- A value as it stands in marked-up text. -/
def escape (v : Value) : Run String :=
  match v with
  | .markup s => return s
  | v => do return escapeText (← say v)

/-- A value as text that is marked up where the value is. -/
def softText (v : Value) : Run Value :=
  match v with
  | .text s => return .text s
  | .markup s => return .markup s
  | v => do return .text (← say v)

/-! ## Lemmas -/

/-- A whole number reads as its digits. -/
theorem say_number (n : Int) : say (.number n) = Run.lift (numberText n) := rfl

end Tweaks.Banner
