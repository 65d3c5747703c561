import Tweaks.Banner.Basic
import Tweaks.Banner.Lexeme

/-!
# Reading expressions

How the lexemes of a tag make up expressions.  Expressions bind, from the loosest to the
tightest: choices, `or`, `and`, `not`, comparisons, sums, joined texts, products, powers,
signs, and filters and tests.  `fuel` bounds the work, and `room` how deep brackets may lie
within each other.
-/

namespace Tweaks.Banner

/-- What is read from the start of lexemes, and the rest. -/
abbrev Read (α : Type) := α × List Lexeme

/-- What arguments of a call have been given so far. -/
structure Given where
  spread : Bool
  named : Bool
  spreadNamed : Bool
deriving DecidableEq, Repr, Inhabited

/-- What has been given behind another argument, if it may stand there: those by their
places come first, several of each kind only once, and none by name behind several by
name. -/
def Given.next? (given : Given) (argument : Argument) : Option Given :=
  match argument with
  | .place _ => if given = default then some given else none
  | .named _ _ => if given.spreadNamed then none else some { given with named := true }
  | .spread _ =>
    if given.spread || given.spreadNamed then none else some { given with spread := true }
  | .spreadNamed _ =>
    if given.spreadNamed then none else some { given with spreadNamed := true }

/-- Lexemes that follow no rule. -/
def unread {α : Type} (s : List Lexeme) : Except Flaw α :=
  match s with
  | .unreadable fault :: _ => .error (.fault fault)
  | _ => .error .malformed

/-- The comparison that a mark stands for. -/
def comparisonMark? (mark : String) : Option Comparison :=
  [("==", Comparison.equal), ("!=", .unequal), ("<", .less), ("<=", .atMost), (">", .greater),
    (">=", .atLeast)].lookup mark

/-- The comparison that lexemes start with, and the rest. -/
def comparison? (s : List Lexeme) : Option (Comparison × List Lexeme) :=
  match s with
  | .mark mark :: rest => (comparisonMark? mark).map fun op => (op, rest)
  | .word "in" :: rest => some (.within, rest)
  | .word "not" :: .word "in" :: rest => some (.notWithin, rest)
  | _ => none

/-- The product that a mark stands for. -/
def productMark? (mark : String) : Option Operator :=
  [("*", Operator.multiply), ("/", .divide), ("//", .quotient), ("%", .remainder)].lookup mark

/-- The sum that a mark stands for. -/
def sumMark? (mark : String) : Option Operator :=
  [("+", Operator.add), ("-", .subtract)].lookup mark

/-- The value of a word that stands for one. -/
def constantWord? (word : String) : Option Value :=
  [("true", Value.truth true), ("True", .truth true), ("false", .truth false),
    ("False", .truth false), ("none", Value.none), ("None", Value.none)].lookup word

/-- The name that stands at the start of lexemes behind points, and the rest. -/
def dottedName (name : String) : (fuel : Nat) → List Lexeme → Except Flaw (Read String)
  | fuel + 1, .mark "." :: .word more :: s => dottedName (name ++ "." ++ more) fuel s
  | _, .mark "." :: s => unread s
  | _, s => .ok (name, s)

/-- Whether lexemes start with an argument of a test that has no brackets. -/
def startsBareArgument (s : List Lexeme) : Bool :=
  match s with
  | .word word :: _ => !(["else", "or", "and"].contains word)
  | .text _ :: _ | .number _ :: _ | .decimal _ _ :: _ | .unreadable _ :: _ => true
  | .mark mark :: _ => ["(", "[", "\x7b"].contains mark
  | [] => false

/-- The lexemes behind a mark that has to stand at their start. -/
def expectMark (mark : String) (s : List Lexeme) : Except Flaw (List Lexeme) :=
  match s with
  | .mark other :: rest => if other = mark then .ok rest else .error .malformed
  | s => unread s

/-- Whether lexemes start with a mark. -/
def startsWithMark (mark : String) (s : List Lexeme) : Bool :=
  match s with
  | .mark other :: _ => other = mark
  | _ => false

/-- Whether a tuple without brackets ends before lexemes: at the end of the tag, before a
bracket, or before one of the given words. -/
def endsTuple (stops : List String) (s : List Lexeme) : Bool :=
  match s with
  | [] => true
  | .mark mark :: _ => mark = ")"
  | .word word :: _ => stops.contains word
  | _ => false

/-- How much room brackets of each kind take. -/
def bracketCost (mark : String) : Nat :=
  if mark = "[" || mark = "\x7b" then 13 else 14

/-- The room that is left within brackets. -/
def bracketRoom (cost room : Nat) : Except Flaw Nat :=
  if cost < room then .ok (room - cost) else .error (.fault .tooDeep)

/-- What stands for expressions with commas between them. -/
def tupleOf (items : List Expr) (isTuple : Bool) (s : List Lexeme) : Except Flaw Expr :=
  match items, isTuple with
  | [e], false => .ok e
  | [], false => unread s
  | items, _ => .ok (.tuple items)

mutual

/-- Reads an expression. -/
def expression : (fuel room : Nat) → List Lexeme → Except Flaw (Read Expr)
  | 0, _, _ => .error .malformed
  | fuel + 1, room, s => do
    let (e, s) ← disjunction fuel room s
    choices fuel room e s

/-- Reads the conditions behind an expression. -/
def choices : (fuel room : Nat) → Expr → List Lexeme → Except Flaw (Read Expr)
  | 0, _, _, _ => .error .malformed
  | fuel + 1, room, e, s =>
    match s with
    | .word "if" :: s => do
      let (condition, s) ← disjunction fuel room s
      match s with
      | .word "else" :: s => do
        let (no, s) ← expression fuel (← bracketRoom 1 room) s
        choices fuel room (.choose condition e (some no)) s
      | s => choices fuel room (.choose condition e none) s
    | s => .ok (e, s)

/-- Reads alternatives. -/
def disjunction : (fuel room : Nat) → List Lexeme → Except Flaw (Read Expr)
  | 0, _, _ => .error .malformed
  | fuel + 1, room, s => do
    let (e, s) ← conjunction fuel room s
    alternatives fuel room e s

/-- Reads the alternatives behind an expression. -/
def alternatives : (fuel room : Nat) → Expr → List Lexeme → Except Flaw (Read Expr)
  | 0, _, _, _ => .error .malformed
  | fuel + 1, room, e, s =>
    match s with
    | .word "or" :: s => do
      let (f, s) ← conjunction fuel room s
      alternatives fuel room (.either e f) s
    | s => .ok (e, s)

/-- Reads joint conditions. -/
def conjunction : (fuel room : Nat) → List Lexeme → Except Flaw (Read Expr)
  | 0, _, _ => .error .malformed
  | fuel + 1, room, s => do
    let (e, s) ← inversion fuel room s
    conditions fuel room e s

/-- Reads the conditions joined to an expression. -/
def conditions : (fuel room : Nat) → Expr → List Lexeme → Except Flaw (Read Expr)
  | 0, _, _, _ => .error .malformed
  | fuel + 1, room, e, s =>
    match s with
    | .word "and" :: s => do
      let (f, s) ← inversion fuel room s
      conditions fuel room (.both e f) s
    | s => .ok (e, s)

/-- Reads a condition that may be inverted. -/
def inversion : (fuel room : Nat) → List Lexeme → Except Flaw (Read Expr)
  | 0, _, _ => .error .malformed
  | fuel + 1, room, s =>
    match s with
    | .word "not" :: s => do
      let (e, s) ← inversion fuel (← bracketRoom 1 room) s
      return (.invert e, s)
    | s => do
      let (e, s) ← sum fuel room s
      let (others, s) ← comparisons fuel room s
      return (if others.isEmpty then e else .compare e others, s)

/-- Reads the comparisons behind a value. -/
def comparisons : (fuel room : Nat) → List Lexeme →
    Except Flaw (Read (List (Comparison × Expr)))
  | 0, _, _ => .error .malformed
  | fuel + 1, room, s =>
    match comparison? s with
    | some (op, s) => do
      let (e, s) ← sum fuel room s
      let (others, s) ← comparisons fuel room s
      return ((op, e) :: others, s)
    | none => .ok ([], s)

/-- Reads a sum. -/
def sum : (fuel room : Nat) → List Lexeme → Except Flaw (Read Expr)
  | 0, _, _ => .error .malformed
  | fuel + 1, room, s => do
    let (e, s) ← joined fuel room s
    summands fuel room e s

/-- Reads the summands behind a value. -/
def summands : (fuel room : Nat) → Expr → List Lexeme → Except Flaw (Read Expr)
  | 0, _, _, _ => .error .malformed
  | fuel + 1, room, e, s =>
    match s with
    | .mark mark :: rest =>
      match sumMark? mark with
      | some op => do
        let (f, rest) ← joined fuel room rest
        summands fuel room (.operate op e f) rest
      | none => .ok (e, s)
    | s => .ok (e, s)

/-- Reads joined texts. -/
def joined : (fuel room : Nat) → List Lexeme → Except Flaw (Read Expr)
  | 0, _, _ => .error .malformed
  | fuel + 1, room, s => do
    let (e, s) ← product fuel room s
    let (others, s) ← joinedParts fuel room s
    return (if others.isEmpty then e else .join (e :: others), s)

/-- Reads the texts joined to a value. -/
def joinedParts : (fuel room : Nat) → List Lexeme → Except Flaw (Read (List Expr))
  | 0, _, _ => .error .malformed
  | fuel + 1, room, s =>
    match s with
    | .mark "~" :: s => do
      let (e, s) ← product fuel room s
      let (others, s) ← joinedParts fuel room s
      return (e :: others, s)
    | s => .ok ([], s)

/-- Reads a product. -/
def product : (fuel room : Nat) → List Lexeme → Except Flaw (Read Expr)
  | 0, _, _ => .error .malformed
  | fuel + 1, room, s => do
    let (e, s) ← power fuel room s
    factors fuel room e s

/-- Reads the factors behind a value. -/
def factors : (fuel room : Nat) → Expr → List Lexeme → Except Flaw (Read Expr)
  | 0, _, _, _ => .error .malformed
  | fuel + 1, room, e, s =>
    match s with
    | .mark mark :: rest =>
      match productMark? mark with
      | some op => do
        let (f, rest) ← power fuel room rest
        factors fuel room (.operate op e f) rest
      | none => .ok (e, s)
    | s => .ok (e, s)

/-- Reads a power. -/
def power : (fuel room : Nat) → List Lexeme → Except Flaw (Read Expr)
  | 0, _, _ => .error .malformed
  | fuel + 1, room, s => do
    let (e, s) ← signedValue fuel room true s
    exponents fuel room e s

/-- Reads the exponents behind a value. -/
def exponents : (fuel room : Nat) → Expr → List Lexeme → Except Flaw (Read Expr)
  | 0, _, _, _ => .error .malformed
  | fuel + 1, room, e, s =>
    match s with
    | .mark "**" :: s => do
      let (f, s) ← signedValue fuel room true s
      exponents fuel room (.operate .power e f) s
    | s => .ok (e, s)

/-- Reads a value with signs before it and, unless it has a sign around it, filters behind
it. -/
def signedValue : (fuel room : Nat) → (filtered : Bool) → List Lexeme →
    Except Flaw (Read Expr)
  | 0, _, _, _ => .error .malformed
  | fuel + 1, room, filtered, s => do
    let (e, s) ← (match s with
      | .mark "-" :: s => do
        let (e, s) ← signedValue fuel (← bracketRoom 1 room) false s
        return (.sign true e, s)
      | .mark "+" :: s => do
        let (e, s) ← signedValue fuel (← bracketRoom 1 room) false s
        return (.sign false e, s)
      | s => primary fuel room s)
    let (e, s) ← parts fuel room e s
    if filtered then filters fuel room e s else return (e, s)

/-- Reads a value by itself. -/
def primary : (fuel room : Nat) → List Lexeme → Except Flaw (Read Expr)
  | 0, _, _ => .error .malformed
  | fuel + 1, room, s =>
    match s with
    | .text value :: .text more :: s => primary fuel room (.text (value ++ more) :: s)
    | .text value :: s => .ok (.constant (.text value), s)
    | .number n :: s => .ok (.constant (.number n), s)
    | .decimal digits exponent :: s =>
      .ok (.constant (.decimal (Decimal.toDouble digits exponent)), s)
    | .word word :: s =>
      match constantWord? word with
      | some value => .ok (.constant value, s)
      | none => .ok (.name word, s)
    | .mark "(" :: s => do
      let (items, isTuple, s) ← tupleItems fuel (← bracketRoom (bracketCost "(") room) true [] s
      let rest ← expectMark ")" s
      return (if isTuple || items.length ≠ 1 then .tuple items
        else items.headD (.tuple []), rest)
    | .mark "[" :: s => do
      let (items, s) ← listItems fuel (← bracketRoom (bracketCost "[") room) s
      return (.list items, s)
    | .mark "\x7b" :: s => do
      let (entries, s) ← mappingEntries fuel (← bracketRoom (bracketCost "\x7b") room) s
      return (.mapping entries, s)
    | s => unread s

/-- Reads expressions with commas between them up to where a tuple ends, and whether there
is a comma. -/
def tupleItems : (fuel room : Nat) → (conditional : Bool) → (stops : List String) →
    List Lexeme → Except Flaw (List Expr × Bool × List Lexeme)
  | 0, _, _, _, _ => .error .malformed
  | fuel + 1, room, conditional, stops, s =>
    if endsTuple stops s then .ok ([], false, s)
    else do
      let (e, s) ← (if conditional then expression fuel room s else disjunction fuel room s)
      match s with
      | .mark "," :: s => do
        let (items, _, s) ← tupleItems fuel room conditional stops s
        return (e :: items, true, s)
      | s => return ([e], false, s)

/-- Reads expressions with commas between them up to the closing bracket. -/
def listItems : (fuel room : Nat) → List Lexeme → Except Flaw (Read (List Expr))
  | 0, _, _ => .error .malformed
  | fuel + 1, room, s =>
    if startsWithMark "]" s then .ok ([], s.tail)
    else do
      let (e, s) ← expression fuel room s
      match s with
      | .mark "," :: s => do
        let (items, s) ← listItems fuel room s
        return (e :: items, s)
      | s => return ([e], ← expectMark "]" s)

/-- Reads entries with commas between them up to the closing bracket. -/
def mappingEntries : (fuel room : Nat) → List Lexeme → Except Flaw (Read (List (Expr × Expr)))
  | 0, _, _ => .error .malformed
  | fuel + 1, room, s =>
    if startsWithMark "\x7d" s then .ok ([], s.tail)
    else do
      let (k, s) ← expression fuel room s
      let s ← expectMark ":" s
      let (v, s) ← expression fuel room s
      match s with
      | .mark "," :: s => do
        let (entries, s) ← mappingEntries fuel room s
        return ((k, v) :: entries, s)
      | s => return ([(k, v)], ← expectMark "\x7d" s)

/-- Reads what picks a part out of a value or calls it. -/
def parts : (fuel room : Nat) → Expr → List Lexeme → Except Flaw (Read Expr)
  | 0, _, _, _ => .error .malformed
  | fuel + 1, room, e, s =>
    match s with
    | .mark "." :: .word name :: s => parts fuel room (.part e name) s
    | .mark "." :: .number n :: s => parts fuel room (.item e (.constant (.number n))) s
    | .mark "." :: s => unread s
    | .mark "[" :: s => do
      let (keys, s) ← subscripts fuel (← bracketRoom 14 room) e s
      parts fuel room keys s
    | .mark "(" :: s => do
      let (arguments, s) ← arguments fuel (← bracketRoom 14 room) default s
      parts fuel room (.call e arguments) s
    | s => .ok (e, s)

/-- Reads what stands in brackets behind a value: a key, the bounds of a slice, or several
keys. -/
def subscripts : (fuel room : Nat) → Expr → List Lexeme → Except Flaw (Read Expr)
  | 0, _, _, _ => .error .malformed
  | fuel + 1, room, e, s => do
    let (items, s) ← subscriptItems fuel room s
    match items with
    | [.inl key] => return (.item e key, s)
    | [.inr (start, stop, step)] => return (.slice e start stop step, s)
    | items => do
      let keys ← items.mapM fun item =>
        match item with
        | .inl key => .ok key
        | .inr _ => .error (.fault .illFormed)
      return (.item e (.tuple keys), s)

/-- Reads keys and slices with commas between them up to the closing bracket. -/
def subscriptItems : (fuel room : Nat) → List Lexeme →
    Except Flaw (Read (List (Expr ⊕ (Option Expr × Option Expr × Option Expr))))
  | 0, _, _ => .error .malformed
  | fuel + 1, room, s =>
    if startsWithMark "]" s then .ok ([], s.tail)
    else do
      let (start, s) ← bound fuel room s
      let (item, s) ← (match start, s with
        | start, .mark ":" :: s => do
          let (stop, s) ← bound fuel room s
          let (step, s) ← (match s with
            | .mark ":" :: s => bound fuel room s
            | s => .ok (none, s))
          return (.inr (start, stop, step), s)
        | some key, s => return (.inl key, s)
        | none, s => unread s)
      match s with
      | .mark "," :: s => do
        if startsWithMark "]" s then unread s
        else
          let (items, s) ← subscriptItems fuel room s
          return (item :: items, s)
      | s => return ([item], ← expectMark "]" s)

/-- Reads a bound of a slice, if there is one. -/
def bound : (fuel room : Nat) → List Lexeme → Except Flaw (Read (Option Expr))
  | 0, _, _ => .error .malformed
  | fuel + 1, room, s =>
    if startsWithMark ":" s || startsWithMark "]" s || startsWithMark "," s then .ok (none, s)
    else do
      let (e, s) ← expression fuel room s
      return (some e, s)

/-- Reads filters, tests and calls behind a value. -/
def filters : (fuel room : Nat) → Expr → List Lexeme → Except Flaw (Read Expr)
  | 0, _, _, _ => .error .malformed
  | fuel + 1, room, e, s =>
    match s with
    | .mark "|" :: _ => do
      let (e, s) ← filterChain fuel room e s
      filters fuel room e s
    | .word "is" :: .word "not" :: s => do
      let (e, s) ← test fuel room e s
      filters fuel room (.invert e) s
    | .word "is" :: s => do
      let (e, s) ← test fuel room e s
      filters fuel room e s
    | .mark "(" :: s => do
      let (arguments, s) ← arguments fuel (← bracketRoom 14 room) default s
      filters fuel room (.call e arguments) s
    | s => .ok (e, s)

/-- Reads filters behind a value. -/
def filterChain : (fuel room : Nat) → Expr → List Lexeme → Except Flaw (Read Expr)
  | 0, _, _, _ => .error .malformed
  | fuel + 1, room, e, s =>
    match s with
    | .mark "|" :: .word name :: s => do
      let (name, s) ← dottedName name s.length s
      let (arguments, s) ← (match s with
        | .mark "(" :: s => do arguments fuel (← bracketRoom 14 room) default s
        | s => .ok ([], s))
      filterChain fuel room (.filter name e arguments) s
    | .mark "|" :: s => unread s
    | s => .ok (e, s)

/-- Reads a test: a name, and its arguments in brackets or a single one without. -/
def test : (fuel room : Nat) → Expr → List Lexeme → Except Flaw (Read Expr)
  | 0, _, _, _ => .error .malformed
  | fuel + 1, room, e, s =>
    match s with
    | .word name :: s => do
      let (name, s) ← dottedName name s.length s
      match s with
      | .mark "(" :: s => do
        let (arguments, s) ← arguments fuel (← bracketRoom 14 room) default s
        return (.test name e arguments, s)
      | .word "is" :: _ => .error .malformed
      | s =>
        if startsBareArgument s then do
          let (argument, s) ← primary fuel room s
          let (argument, s) ← parts fuel room argument s
          return (.test name e [.place argument], s)
        else return (.test name e [], s)
    | s => unread s

/-- Reads arguments up to the closing bracket. -/
def arguments : (fuel room : Nat) → Given → List Lexeme → Except Flaw (Read (List Argument))
  | 0, _, _, _ => .error .malformed
  | fuel + 1, room, given, s =>
    if startsWithMark ")" s then .ok ([], s.tail)
    else do
      let (argument, s) ← (match s with
        | .mark "*" :: s => do
          let (e, s) ← expression fuel room s
          return (.spread e, s)
        | .mark "**" :: s => do
          let (e, s) ← expression fuel room s
          return (.spreadNamed e, s)
        | .word name :: .mark "=" :: s => do
          let (e, s) ← expression fuel room s
          return (.named name e, s)
        | s => do
          let (e, s) ← expression fuel room s
          return (.place e, s))
      let given ← (match given.next? argument with
        | some given => .ok given
        | none => .error .malformed)
      match s with
      | .mark "," :: s => do
        let (others, s) ← arguments fuel room given s
        return (argument :: others, s)
      | s => return ([argument], ← expectMark ")" s)

end

end Tweaks.Banner
