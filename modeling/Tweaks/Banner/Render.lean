import Tweaks.Banner.Call

/-!
# Filling in banners

The text of a banner with values for its names.  A name without a value must not be used, but
for asking whether it has one.

Main results:

- `evaluate_constant`: a constant stands for itself, unless it has no spelling.
- `say_pieces_nil`: without pieces nothing is said.
-/

namespace Tweaks

namespace Banner

/-! ## What is said -/

/-- What pieces say, unless one of them is no text. -/
abbrev Said := Option String

/-- What is said first, and what is said behind it. -/
def Said.join (first next : Said) : Said :=
  match first, next with
  | some s, some t => some (s ++ t)
  | _, _ => none

/-- The text that is said. -/
def Said.text (said : Said) : Run String :=
  Run.lift (orFault .wrongKind said)

/-- A text that was said, as a value: it is marked up where values are escaped. -/
def capturedText (escaping : Escaping) (s : String) : Run Value :=
  match escaping with
  | .off => return .text s
  | .on => return .markup s
  | .varying => Run.reading fun w => .ok (if w.escapes then .markup s else .text s)

/-- A text that was said in another place, as a value. -/
def returnedText (s : String) : Run Value :=
  capturedText .varying s

/-- A value as it is said. -/
def sayIn (env : Env) (v : Value) : Run String :=
  match env.escaping with
  | .off => say v
  | .on => escape v
  | .varying => do
    if ← Run.reading fun w => .ok w.escapes then escape v else say v

/-- Values said one after the other: where values are escaped, those behind one that is marked
up are escaped, and all of them are if there is one. -/
def joinValues (env : Env) (values : List Value) : Run Value := do
  let isMarkup (v : Value) : Bool := match v with
    | .markup _ => true
    | _ => false
  if env.escaping = .on && values.any isMarkup then
    return .markup (String.join (← values.mapM escape))
  else return .text (String.join (← values.mapM say))

/-! ## Frames -/

/-- What surrounds a body with a frame of its own. -/
def enter (env : Env) (mentions : List Mention) (entries : Scope) : Run (Nat × Env) := do
  let place ← newFrame ⟨entries, unsetNames env.known mentions⟩
  return (place, { env with
    frames := place :: env.frames
    known := entries.map Prod.fst ++ mentions.map (·.name) ++ env.known })

/-- The names of a frame that stand for something from the start: the banner, if it is asked
for its blocks. -/
def ownNames (body : List Piece) : Scope :=
  if readsName "self" body then [("self", .banner)] else []

/-- What surrounds the body of a block.  It sees the names of the outermost frame and the given
ones; a scoped block sees all names that are seen around it. -/
def enterBlock (env : Env) (b : Block) (isScoped : Bool) : Run Env := do
  let given ← (if isScoped then seenNames env
    else
      match env.root with
      | some root => Run.reading fun w => .ok ((w.frameAt root).entries ++ env.given)
      | none => pure env.given)
  let around := { env with
    frames := []
    root := if isScoped then none else env.root
    given := given
    known := []
    escaping := .off
    depth := env.depth + 1 }
  return (← enter around (frameMentionsOf b.body) (ownNames b.body)).2

/-- How deep calls may lie within each other. -/
def mostCalls : Nat := 195

/-- What a value has under a name; the banner has its blocks. -/
def partIn (env : Env) (v : Value) (name : String) : Run Value :=
  match v with
  | .banner => do
    match ← attribute? .banner name with
    | some found => return found
    | none => return if env.blocks.any (·.name = name) then .block name else .missing false
  | v => partOf v name

/-- What a value has under a key; the banner has its blocks. -/
def itemIn (env : Env) (v key : Value) : Run Value :=
  match v, key.textOf? with
  | .banner, some name => partIn env .banner name
  | v, _ => itemOf v key

/-- Whether each value compares with the next one as asked for. -/
def compareAll (value : Expr → Run Value) (v : Value) : List (Comparison × Expr) → Run Bool
  | [] => return true
  | (op, e) :: rest => do
    let next ← value e
    if ← compare op v next then compareAll value next rest else return false

/-- Whether the rounds of a loop are known to its body. -/
def knowsRounds (isOpen : Bool) (body empty : List Piece) : Bool :=
  isOpen || readsName "loop" body || (blocksOf body ++ blocksOf empty).any (·.isScoped)

/-- The next item of a loop, if there is one, and the items behind it.  A loop that its body may
ask about its rounds comes to the next one of them. -/
def turnRound (round : Option Nat) (items : Items) : Run (Option Value × Items) := do
  match round with
  | none => items.next
  | some place => do
    match ← objectAt place with
    | .round r => do
      match ← r.advance place with
      | some (.tuple (v :: _)) => return (some v, items)
      | _ => return (none, items)
    | _ => Run.fail .wrongKind

/-- What a banner says where it asks for another one, of which there is none.  One that is
optional may be chosen from nothing. -/
def sayForeign (use : ForeignUse) (v : Value) : Run Said := do
  match use, v.textOf? with
  | .text isOptional, none => do
    if v.isMissing then Run.fail .missing
    else if ← isTrue v then
      let (first, _) ← (← Items.of v).next
      match first, isOptional with
      | some _, _ => Run.fail .wrongKind
      | none, true => return some ""
      | none, false => Run.fail .missing
    else if isOptional then return some ""
    else Run.fail .missing
  | _, _ => Run.fail .wrongKind

/-! ## Expressions and pieces -/

mutual

/-- The value of an expression. -/
def evaluate : (fuel : Nat) → Env → Expr → Run Value
  | 0, _, _ => Run.fail .tooDeep
  | fuel + 1, env, e =>
    let value := evaluate fuel env
    match e with
    | .constant v => if v.isUnspelled then Run.fail .noName else return v
    | .name name => do return (← lookup? env name).getD (.missing false)
    | .tuple items => do return .tuple (← items.mapM value)
    | .list items => do newList (← items.mapM value)
    | .mapping entries => do
      let entries ← entries.mapM fun (k, v) => do return (← value k, ← value v)
      newMapping (← Run.reading fun w => withKeys w [] entries)
    | .sign negative e => do
      let v ← value e
      Run.lift (signed negative v)
    | .operate op left right => do
      let a ← value left
      operate op a (← value right)
    | .join parts => do joinValues env (← parts.mapM value)
    | .compare first others => do
      return .truth (← compareAll value (← value first) others)
    | .invert e => do
      let v ← value e
      return .truth (!(← isTrue v))
    | .both left right => do
      let a ← value left
      if ← isTrue a then value right else return a
    | .either left right => do
      let a ← value left
      if ← isTrue a then return a else value right
    | .choose condition yes no => do
      let c ← value condition
      if ← isTrue c then value yes
      else
        match no with
        | some no => value no
        | none => return .missing true
    | .item e key => do
      let v ← value e
      itemIn env v (← value key)
    | .part e name => do partIn env (← value e) name
    | .slice e start stop step => do
      let v ← value e
      let bound (e : Option Expr) : Run Value := match e with
        | some e => value e
        | none => return .none
      let start ← bound start
      let stop ← bound stop
      sliceOf v start stop (← bound step)
    | .filter name e arguments => do
      let v ← value e
      let (places, named) ← argumentValues value arguments
      if filterNames.contains name then applyFilter name v places named
      else Run.fail (if named.isEmpty then .unknownUse else .wrongKind)
    | .test name e arguments => do
      let v ← value e
      let (places, named) ← argumentValues value arguments
      match testOf? name with
      | some t => return .truth (← t.run v places named)
      | none => Run.fail (if named.isEmpty then .unknownUse else .wrongKind)
    | .call e arguments => do
      let v ← value e
      let (places, named) ← argumentValues value arguments
      callValue fuel env v places named
    | .captured => return env.captured

/-- The value of a call. -/
def callValue : (fuel : Nat) → Env → Value → List Value → Scope → Run Value
  | 0, _, _, _, _ => Run.fail .tooDeep
  | fuel + 1, env, v, places, named =>
    match v with
    | .function _ => fillerText places named
    | .kind k | .alias k _ => construct k places named
    | .method name .banner _ =>
      match name, places, named with
      | "__getitem__", [key], [] => do
        let found ← itemIn env .banner key
        if found.isMissing then Run.fail .noKey else return found
      | name, places, named => applyMethod .banner name places named
    | .method name owner _ => applyMethod owner name places named
    | .unbound k name => applyUnbound k name places named
    | .missing _ => Run.fail .missing
    | .block name => do
      if !places.isEmpty || !named.isEmpty then Run.fail .wrongKind
      else
        let said ← sayBlock fuel env name false
        returnedText (← said.text)
    | .object place => do
      match ← objectAt place with
      | .routine r => callRoutine fuel env r places named
      | .separator separator used =>
        if !places.isEmpty || !named.isEmpty then Run.fail .wrongKind
        else do
          setObject place (.separator separator true)
          return if used then separator else .text ""
      | .round r =>
        match r.again, places, named with
        | some (p, around), [items], [] =>
          if mostCalls ≤ env.depth then Run.fail .tooDeep
          else do
            let around := { around with depth := env.depth + 1 }
            let said ← sayLoop fuel around p items (r.depth + 1)
            capturedText around.escaping (← said.text)
        | _, _, _ => Run.fail .wrongKind
      | _ => Run.fail .wrongKind
    | _ => Run.fail .wrongKind

/-- The text of a routine with arguments. -/
def callRoutine : (fuel : Nat) → Env → Routine → List Value → Scope → Run Value
  | 0, _, _, _, _ => Run.fail .tooDeep
  | fuel + 1, env, r, places, named => do
    let entries ← r.bind places named
    if mostCalls ≤ env.depth then Run.fail .tooDeep
    else
      let names := r.parameters.parameters
      let around := { r.env with
        depth := env.depth + 1
        known := r.env.known.filter fun name => !names.contains name }
      let (place, inner) ← enter around r.mentions entries
      r.parameters.forM fun (name, e) => do
        if (entries.lookup name).isNone then
          let v ← (match e with
            | some e => evaluate fuel inner e
            | none => return .missing false)
          setName place name v
      let said ← sayPieces fuel inner r.body
      returnedText (← said.text)

/-- What pieces say. -/
def sayPieces : (fuel : Nat) → Env → List Piece → Run Said
  | 0, _, _ => Run.fail .tooDeep
  | _ + 1, _, [] => return some ""
  | fuel + 1, env, p :: rest => do
    let said ← sayPiece fuel env p
    return said.join (← sayPieces fuel env rest)

/-- What a body with a frame of its own says. -/
def sayBody : (fuel : Nat) → Env → List Piece → Run Said
  | 0, _, _ => Run.fail .tooDeep
  | fuel + 1, env, body => do
    let (_, inner) ← enter env (frameMentionsOf body) []
    sayPieces fuel inner body

/-- What the block with a name says. -/
def sayBlock : (fuel : Nat) → Env → (name : String) → (isScoped : Bool) → Run Said
  | 0, _, _, _ => Run.fail .tooDeep
  | fuel + 1, env, name, isScoped =>
    match env.blocks.find? (·.name = name) with
    | none => Run.fail .missing
    | some b =>
      if mostCalls ≤ env.depth then Run.fail .tooDeep
      else do sayPieces fuel (← enterBlock env b isScoped) b.body

/-- What a piece says. -/
def sayPiece : (fuel : Nat) → Env → Piece → Run Said
  | 0, _, _ => Run.fail .tooDeep
  | fuel + 1, env, p =>
    let value := evaluate fuel env
    let frame := env.frames.headD 0
    match p with
    | .text s => return some s
    | .output parts => do
      let texts ← parts.mapM fun e => do sayIn env (← value e)
      return some (String.join texts)
    | .choice branches otherwise => do
      let chosen ← branches.findSomeM? fun (condition, body) => do
        let c ← value condition
        return if ← isTrue c then some body else none
      sayPieces fuel env (chosen.getD otherwise)
    | .loop _ items _ _ _ _ => do sayLoop fuel env p (← value items) 0
    | .assign target e => do
      checkOwners env target
      target.assign env frame (← value e)
      return some ""
    | .capture target e body => do
      let (_, inner) ← enter env (frameMentionsOf body) []
      let said ← sayPieces fuel inner body
      let s ← said.text
      let v ← (match e with
        | some e => do
          evaluate fuel { inner with captured := ← capturedText env.escaping s } e
        | none => return .text s)
      let escapes ← Run.reading fun w => .ok w.escapes
      target.assign env frame (← if escapes then applySafe v else pure v)
      return some ""
    | .filtered e body => do
      let (_, inner) ← enter env (frameMentionsOf body ++ readNames e.names) []
      let said ← sayPieces fuel inner body
      let captured ← capturedText env.escaping (← said.text)
      return (← evaluate fuel { inner with captured := captured } e).textOf?
    | .binding bindings body => do
      let mentions := givenNames (bindings.flatMap fun (target, _) => target.names) ++
        frameMentionsOf body
      let (place, inner) ← enter env mentions []
      bindings.forM fun (target, e) => do target.assign inner place (← value e)
      sayPieces fuel inner body
    | .block name isScoped isRequired _ =>
      if isRequired then Run.fail .missing else sayBlock fuel env name isScoped
    | .routine name parameters body => do
      setName frame name (← newObject (.routine ⟨some name, parameters, body, env⟩))
      return some ""
    | .calling parameters e arguments body => do
      let caller ← newObject (.routine ⟨none, parameters, body, env⟩)
      let v ← value e
      let (places, named) ← argumentValues value arguments
      if named.any fun (name, _) => name = "caller" then Run.fail .wrongKind
      else return (← callValue fuel env v places (named ++ [("caller", caller)])).textOf?
    | .escaping e body => do
      let (_, inner) ← enter env (readNames e.names ++ frameMentionsOf body) []
      let v ← evaluate fuel inner e
      let escapes ← isTrue v
      let before ← setEscapes escapes
      let escaping := match e, env.escaping with
        | _, .varying => .varying
        | .constant _, _ => if escapes then Escaping.on else .off
        | _, _ => .varying
      let said ← sayPieces fuel { inner with escaping := escaping } body
      let _ ← setEscapes before
      return said
    | .foreign use e => do sayForeign use (← value e)

/-- What the target of a loop holds for an item, if this meets the condition of the loop. -/
def meets : (fuel : Nat) → Meeting
  | 0, _, _, _, _ => Run.fail .tooDeep
  | fuel + 1, env, target, condition, v => do
    let mentions := givenNames target.names ++ readNames condition.names
    let (place, inner) ← enter env mentions []
    target.assign inner place v
    if ← isTrue (← evaluate fuel inner condition) then return some (← target.read inner)
    else return none

/-- What a loop says for the items of a value. -/
def sayLoop : (fuel : Nat) → Env → Piece → Value → (depth : Nat) → Run Said
  | fuel + 1, env, .loop target e condition isOpen body empty, v, depth => do
    let source ← (match condition with
      | none => pure v
      | some condition => newSupply "generator" (.awaited v env target condition))
    let items ← Items.of source
    let (said, isEmpty) ← (if knowsRounds isOpen body empty then do
        let again := if isOpen then some (.loop target e condition isOpen body empty, env) else none
        match ← newObject (.round (.start source items depth again)) with
        | .object place => sayRounds fuel env target body (some place) items true (some "")
        | _ => Run.fail .wrongKind
      else sayRounds fuel env target body none items true (some ""))
    if isEmpty then return said.join (← sayBody fuel env empty) else return said
  | _, _, _, _, _ => Run.fail .tooDeep

/-- What the rounds of a loop say behind what was said before, and whether there was none. -/
def sayRounds : (fuel : Nat) → Env → Target → List Piece → (round : Option Nat) → Items →
    (isEmpty : Bool) → Said → Run (Said × Bool)
  | 0, _, _, _, _, _, _, _ => Run.fail .tooDeep
  | fuel + 1, env, target, body, round, items, isEmpty, said => do
    match ← turnRound round items with
    | (none, _) => return (said, isEmpty)
    | (some v, behind) => do
      let entries : Scope := match round with
        | some place => [("loop", .object place)]
        | none => []
      let mentions := givenNames target.names ++ frameMentionsOf body
      let (frame, inner) ← enter env mentions entries
      target.assign inner frame v
      let said := said.join (← sayPieces fuel inner body)
      sayRounds fuel env target body round behind false said

end

/-! ## Banners -/

/-- The values of the names that are there in every banner. -/
def usualNames : Scope := [
  ("range", .kind .range), ("dict", .kind .mapping), ("lipsum", .function "generate_lorem_ipsum"),
  ("cycler", .kind .cycle), ("joiner", .kind .separator), ("namespace", .kind .record)]

/-- What surrounds a banner with values for names. -/
def outermost (b : Banner) (given : Scope) : Env where
  frames := []
  root := some 0
  given := given ++ usualNames
  known := []
  escaping := .off
  depth := 0
  blocks := blocksOf b
  captured := .none

/-- What objects do that hold pieces of a banner, which may ask others so many times within each
other. -/
def conductWithin (env : Env) : (depth : Nat) → Conduct
  | 0 => default
  | depth + 1 =>
    let inner := conductWithin env depth
    ⟨fun place => nextOfObject (meets patience) place inner,
      fun v places named => callValue patience env v places named inner⟩

/-- The text of a banner with values for its names. -/
def render (b : Banner) (given : Scope) : Except Fault String :=
  let around := outermost b given
  let text : Run String := do
    let (_, env) ← enter around (frameMentionsOf b) (ownNames b)
    let said ← sayPieces patience env b
    said.text
  (text (conductWithin around deepest) default).map Prod.fst

/-! ## Lemmas -/

/-- A constant stands for itself, unless it has no spelling. -/
theorem evaluate_constant (fuel : Nat) (env : Env) {v : Value} (h : v.isUnspelled = false) :
    evaluate (fuel + 1) env (.constant v) = pure v := by
  simp only [evaluate, h]
  rfl

/-- Without pieces nothing is said. -/
@[simp]
theorem say_pieces_nil (fuel : Nat) (env : Env) :
    sayPieces (fuel + 1) env [] = pure (some "") := rfl

end Banner

end Tweaks
