import Tweaks.Banner.Fixed
import Tweaks.Banner.Parse
import Tweaks.Banner.Render

/-!
# Banners that make sense

A banner that is spelled by the rules may still make no sense: it may use filters that there
are none of, give a name twice, or ask for another template in the wrong place.  This is found
out before the banner is filled in, together with the values that are known by then.
-/

namespace Tweaks.Banner

/-! ## Expressions -/

/-- What is known about the place of an expression. -/
structure Setting where
  /-- Whether it may never be reached, so that it may use what there is none of. -/
  isSoft : Bool
  /-- Whether it lies in no piece but in choices. -/
  isOutermost : Bool
  /-- Whether values are escaped. -/
  escapes : Bool
  /-- Whether this may change while the banner is filled in. -/
  varies : Bool
  /-- The names that the frames around it mention. -/
  known : List String

instance : Inhabited Setting := ⟨⟨false, true, false, false, []⟩⟩

/-- How deep expressions are looked at. -/
def deepestExpr : Nat := 400

/-- How deep expressions may lie within each other. -/
def deepestLooked : Nat := 320

/-- How many brackets may lie within each other once an expression is written out. -/
def mostBrackets : Nat := 200

/-- Whether an expression uses a filter or test that there is none of, outside of choices. -/
def usesUnknown : (fuel : Nat) → Expr → Bool
  | 0, _ => false
  | fuel + 1, e =>
    match e with
    | .choose _ _ _ => false
    | .filter name _ _ => !filterNames.contains name || e.children.any (usesUnknown fuel)
    | .test name _ _ => (testOf? name).isNone || e.children.any (usesUnknown fuel)
    | e => e.children.any (usesUnknown fuel)

/-- Whether a constant has too many digits to be written. -/
def isTooLongConstant (e : Expr) : Bool :=
  match e with
  | .constant (.number n) => Document.isTooLong n
  | _ => false

/-- A computation before a banner is filled in. -/
def Setting.run {α : Type} (setting : Setting) (x : Run α) : Except Flaw α :=
  match x (conductWithin default deepest) { (default : World) with escapes := setting.escapes } with
  | .ok (a, _) => .ok a
  | .error fault => .error (.fault fault)

/-- An expression that makes sense, with all that is known beforehand put in. -/
def prepareExpr (setting : Setting) (e : Expr) : Except Flaw Expr := do
  if deepestLooked < e.depth (fun _ => 1) deepestExpr then .error (.fault .tooDeep)
  else
    let e ← (if setting.varies then .ok e else setting.run (settledWithin deepestExpr e))
    if !setting.isSoft && usesUnknown deepestExpr e then .error .malformed
    else if e.anywhere isTooLongConstant deepestExpr then .error (.fault .wrongValue)
    else return e

/-- An expression that is said.  If its value is known, so is its text.  What goes wrong with
it goes wrong when it is said. -/
def prepareSaid (setting : Setting) (e : Expr) : Except Flaw Expr :=
  let said := setting.run (do
    match ← fixedValue setting.varies deepestExpr e with
    | some v => do return some (← if setting.escapes then escape v else say v)
    | none => return none)
  match said with
  | .ok (some s) => .ok (.constant (.markup s))
  | _ => prepareExpr setting e

/-- An expression that may be left out. -/
def prepareOption (setting : Setting) (e : Option Expr) : Except Flaw (Option Expr) :=
  match e with
  | some e => (prepareExpr setting e).map some
  | none => .ok none

/-- Arguments whose expressions make sense. -/
def prepareArguments (setting : Setting) (arguments : List Argument) :
    Except Flaw (List Argument) :=
  arguments.mapM fun a => do return a.withExpr (← prepareExpr setting a.expr)

/-- Parameters whose expressions make sense. -/
def prepareSignature (setting : Setting) (parameters : Signature) : Except Flaw Signature :=
  parameters.mapM fun (name, e) => do return (name, ← prepareOption setting e)

/-! ## Names -/

mutual

/-- The names that a piece gives values to, but for those of parameters. -/
def Piece.stores : Piece → List String
  | .text _ => []
  | .output _ => []
  | .choice branches otherwise => branchStores branches ++ storesOf otherwise
  | .loop target _ _ _ body empty => target.names ++ storesOf body ++ storesOf empty
  | .assign target _ => target.names
  | .capture target _ body => target.names ++ storesOf body
  | .filtered _ body => storesOf body
  | .binding _ body => storesOf body
  | .block _ _ _ body => storesOf body
  | .routine _ _ body => storesOf body
  | .calling _ _ _ body => storesOf body
  | .escaping _ body => storesOf body
  | .foreign _ _ => []

/-- The names that pieces give values to. -/
def storesOf : List Piece → List String
  | [] => []
  | p :: rest => p.stores ++ storesOf rest

/-- The names that the branches of a choice give values to. -/
def branchStores : List (Expr × List Piece) → List String
  | [] => []
  | (_, body) :: rest => storesOf body ++ branchStores rest

end

/-- What is known within a body with a frame of its own. -/
def Setting.inside (setting : Setting) (mentions : List Mention) : Setting :=
  { setting with
    isSoft := false
    isOutermost := false
    known := mentions.map (·.name) ++ setting.known }

/-- Whether a name is spelled only once among others. -/
def spellsOnce : List String → Bool
  | [] => true
  | name :: rest => !rest.contains name && spellsOnce rest

/-- Whether a body with parameters asks who calls it by a parameter that may be left out. -/
def asksOddly (parameters : Signature) (body : List Piece) : Bool :=
  readsName "caller" body &&
    parameters.any fun (name, e) => name = "caller" && e.isNone

/-! ## Pieces -/

/-- A piece that makes sense, with all that is known beforehand put in. -/
def preparePiece : (fuel : Nat) → Setting → Piece → Except Flaw Piece
  | 0, _, _ => .error (.fault .tooDeep)
  | fuel + 1, setting, p =>
    let all (setting : Setting) (body : List Piece) : Except Flaw (List Piece) :=
      body.mapM (preparePiece fuel setting)
    match p with
    | .text s => .ok (.text s)
    | .output parts => do return .output (← parts.mapM (prepareSaid setting))
    | .choice branches otherwise => do
      let soft := { setting with isSoft := true }
      let branches ← branches.mapM fun (condition, body) => do
        return (← prepareExpr soft condition, ← all soft body)
      return .choice branches (← all soft otherwise)
    | .loop target items condition isOpen body empty => do
      let names := givenNames target.names
      let condition ← prepareOption
        (setting.inside (names ++ readNames (boundNames condition))) condition
      if p.stores.contains "loop" then .error .malformed
      else
        let items ← prepareExpr setting items
        let loop := if knowsRounds isOpen body empty then givenNames ["loop"] else []
        let body ← all (setting.inside (loop ++ names ++ frameMentionsOf body)) body
        let empty ← all (setting.inside (frameMentionsOf empty)) empty
        return .loop target items condition isOpen body empty
    | .assign target e => do return .assign target (← prepareExpr setting e)
    | .capture target e body => do
      let inner := setting.inside (frameMentionsOf body)
      let body ← all inner body
      if (boundNames e).any fun name => !inner.known.contains name then .error (.fault .unmet)
      else return .capture target (← prepareOption inner e) body
    | .filtered e body => do
      let inner := setting.inside (frameMentionsOf body ++ readNames e.names)
      let body ← all inner body
      return .filtered (← prepareExpr inner e) body
    | .binding bindings body => do
      let names := givenNames (bindings.flatMap fun (target, _) => target.names)
      let bindings ← bindings.mapM fun (target, e) => do
        return (target, ← prepareExpr setting e)
      return .binding bindings (← all (setting.inside (names ++ frameMentionsOf body)) body)
    | .block name isScoped isRequired body => do
      let inner := (default : Setting).inside (frameMentionsOf body)
      return .block name isScoped isRequired (← all inner body)
    | .routine name parameters body => do
      if asksOddly parameters body then .error .malformed
      else
        let inner := setting.inside (givenNames parameters.parameters ++
          readNames parameters.names ++ frameMentionsOf body)
        return .routine name (← prepareSignature inner parameters) (← all inner body)
    | .calling parameters e arguments body => do
      if asksOddly parameters body then .error .malformed
      else
        let inner := setting.inside (givenNames parameters.parameters ++
          readNames parameters.names ++ frameMentionsOf body)
        let parameters ← prepareSignature inner parameters
        let body ← all inner body
        let e ← prepareExpr setting e
        return .calling parameters e (← prepareArguments setting arguments) body
    | .escaping e body => do
      let inner := setting.inside (readNames e.names ++ frameMentionsOf body)
      let e ← prepareExpr inner e
      let fixed ← setting.run (do
        match ← fixedValue setting.varies deepestExpr e with
        | some v => return some (← isTrue v)
        | none => return none)
      match fixed with
      | some escapes =>
        let body ← all { inner with escapes := escapes } body
        return .escaping (.constant (.truth escapes)) body
      | none => return .escaping e (← all { inner with varies := true } body)
    | .foreign use e =>
      if use = .frame && !setting.isOutermost then .error .malformed
      else do return .foreign use (← prepareExpr setting e)

/-! ## Written out -/

/-- How many brackets an expression takes around its parts once it is written out. -/
def bracketsAround (e : Expr) : Nat :=
  match e with
  | .constant _ | .captured => 0
  | .name _ | .join _ => 2
  | .slice _ _ _ _ => 0
  | _ => 1

/-- The words that are no names where an expression is written out. -/
def reservedWords : List String :=
  ["False", "None", "True", "and", "as", "assert", "async", "await", "break", "class",
    "continue", "def", "del", "elif", "else", "except", "finally", "for", "from", "global", "if",
    "import", "in", "is", "lambda", "nonlocal", "not", "or", "pass", "raise", "return", "try",
    "while", "with", "yield"]

/-- Whether arguments are given by a name twice.  It does not count where one of the names is
a reserved word. -/
def repeatsName (names : List String) : Bool :=
  !spellsOnce names && !names.any reservedWords.contains

/-- Whether an expression can be written out. -/
def isWritableExpr (e : Expr) : Bool :=
  e.depth bracketsAround deepestExpr < mostBrackets &&
    !e.anywhere (fun e => repeatsName ((e.arguments.filterMap Argument.named?).map Prod.fst))
      deepestExpr

/-- How many bodies lie within each other, and how many loops of them. -/
structure Nesting where
  levels : Nat
  loops : Nat
deriving DecidableEq, Repr

/-- Whether a piece can be written out within so many bodies. -/
def isWritablePiece : (fuel : Nat) → Nesting → Piece → Except Fault Unit
  | 0, _, _ => .error .tooNested
  | fuel + 1, nesting, p =>
    let all (nesting : Nesting) (body : List Piece) : Except Fault Unit :=
      if 98 < nesting.levels then .error .tooNested
      else body.forM (isWritablePiece fuel nesting)
    let check (exprs : List Expr) : Except Fault Unit :=
      if exprs.all isWritableExpr then .ok () else .error .illFormed
    let deeper : Nesting := { nesting with levels := nesting.levels + 1 }
    let own : Nesting := ⟨nesting.levels + 1, 0⟩
    match p with
    | .text _ => .ok ()
    | .output parts => check parts
    | .choice branches otherwise => do
      check (branches.map Prod.fst)
      branches.forM fun (_, body) => all deeper body
      all deeper otherwise
    | .loop _ items condition isOpen body empty => do
      check (items :: condition.toList)
      let around := if isOpen then own else nesting
      if 20 ≤ around.loops then .error .illFormed
      else do
        all ⟨around.levels + 1, around.loops + 1⟩ body
        all { around with levels := around.levels + 1 } empty
    | .assign _ e => check [e]
    | .capture _ e body => do
      check e.toList
      all nesting body
    | .filtered e body => do
      check [e]
      all nesting body
    | .binding bindings body => do
      check (bindings.map Prod.snd)
      all nesting body
    | .block _ _ _ body => all ⟨1, 0⟩ body
    | .routine _ parameters body => do
      if !spellsOnce parameters.parameters then .error .illFormed
      else do
        check (parameters.filterMap Prod.snd)
        all own body
    | .calling parameters e arguments body => do
      let names := "caller" :: (arguments.filterMap Argument.named?).map Prod.fst
      if !spellsOnce parameters.parameters || repeatsName names then .error .illFormed
      else do
        check (e :: arguments.map Argument.expr ++ parameters.filterMap Prod.snd)
        all own body
    | .escaping e body => do
      check [e]
      all nesting body
    | .foreign _ e => check [e]

/-! ## Banners -/

/-- A banner that makes sense, with all that is known beforehand put in. -/
def prepare (b : Banner) : Except Flaw Banner := do
  if !spellsOnce ((blocksOf b).map (·.name)) then .error .malformed
  else
    let names := (frameMentionsOf b).map (·.name) ++ (ownNames b).map Prod.fst
    let b ← b.mapM (preparePiece deepestExpr { (default : Setting) with known := names })
    match b.forM (isWritablePiece deepestExpr ⟨1, 0⟩) with
    | .ok _ => return b
    | .error fault => .error (.fault fault)

/-- The banner that a source spells, if it makes sense. -/
def ofSource (source : String) : Except Flaw Banner := do
  prepare (← parse source)

end Tweaks.Banner
