import Tweaks.Banner.Construct

/-!
# Answers

What values answer when they are asked by name: each kind has its own answers, and those of the
wider kinds to which its values belong.

One answer is filler text: paragraphs without a meaning, which stand for text that is to come.
Any words serve, as long as there are as many as asked for; here each paragraph goes through the
same words in turn.
-/

namespace Tweaks.Banner

/-! ## Filler text -/

/-- The words of filler text. -/
def fillerVocabulary : List String := [
  "lorem", "ipsum", "dolor", "sit", "amet", "consectetuer", "adipiscing", "elit", "sed",
  "pellentesque", "habitant", "morbi", "tristique", "senectus", "netus", "malesuada", "fames",
  "turpis", "egestas", "vestibulum", "tortor", "quam"]

/-- So many words, one after the other. -/
def fillerWords (count : Nat) : List String :=
  (List.range count).map fun i => fillerVocabulary.getD (i % fillerVocabulary.length) ""

/-- A paragraph of so many words: a sentence. -/
def fillerParagraph (count : Nat) : String :=
  let s := (Text.join " " (fillerWords count)).toList
  String.ofList (Text.capitalized s ++ ['.'])

/-- A bound of the number of words. -/
def fillerBound (v : Value) : Except Fault Int :=
  match v with
  | .decimal x => if Decimal.isWhole x then .ok (Decimal.truncated x) else .error .wrongValue
  | v =>
    match v.integerOf?, spelling? v with
    | some n, _ => .ok n
    | none, some _ => .error .wrongValue
    | none, none => if v.isMissing then .error .missing else .error .wrongKind

/-- The value of `lipsum`: paragraphs of filler text, marked up or with blank lines between
them. -/
def fillerText (places : List Value) (named : Scope) : Run Value := do
  let given ← Run.lift (bindArguments ["n", "html", "min", "max"] places named)
  let argument (name : String) (other : Value) : Value := (given.lookup name).getD other
  let n ← Run.lift (integerArgument (argument "n" (.number 5)))
  let paragraphs ← (List.replicate n.toNat ()).mapM fun _ => do
    let low ← Run.lift (fillerBound (argument "min" (.number 20)))
    let high ← Run.lift (fillerBound (argument "max" (.number 100)))
    if high ≤ low then Run.fail .wrongValue else return fillerParagraph low.toNat
  if ← isTrue (argument "html" (.truth true)) then
    return .markup (Text.join "\n" (paragraphs.map fun s => "<p>" ++ s ++ "</p>"))
  else return .text (Text.join "\n\n" paragraphs)

/-! ## Values of wider kinds -/

/-- A value as a value of a kind to which it belongs. -/
def Value.as (k : Kind) (v : Value) : Value :=
  match k, v with
  | .text, .markup s => .text s
  | .number, .truth b => .number (if b then 1 else 0)
  | .tuple, .group key items => .tuple [key, items]
  | _, v => v

/-! ## Objects -/

/-- What a tuple with names for its places answers. -/
def groupMethod (key items : Value) (name : String) (places : List Value) (named : Scope) :
    Run Value := do
  match name, places with
  | "_asdict", [] =>
    if named.isEmpty then newMapping [(.text "grouper", key), (.text "list", items)]
    else Run.fail .wrongKind
  | "_replace", [] =>
    if named.any fun (name, _) => name ≠ "grouper" && name ≠ "list" then Run.fail .wrongValue
    else return .group ((named.lookup "grouper").getD key) ((named.lookup "list").getD items)
  | _, _ => Run.fail .wrongKind

/-- What the loop at a place answers. -/
def roundMethod (place : Nat) (r : Round) (name : String) (places : List Value) : Run Value := do
  match name, places with
  | "cycle", [] => Run.fail .wrongKind
  | "cycle", choices =>
    return choices.getD (((r.count : Int) - 1) % choices.length).toNat .none
  | "changed", values => do
    let isEqualNow ← Run.reading fun w =>
      match r.seen with
      | none => .ok false
      | some seen => equalLists w deepest seen values
    if isEqualNow then return .truth false
    else do
      setObject place (.round { r with seen := some values })
      return .truth true
  | "_peek_next", [] => return (← r.peek place).getD (.missing false)
  | _, _ => Run.fail .wrongKind

/-- What another object answers. -/
def objectMethod (place : Nat) (name : String) (places : List Value) : Run Value := do
  match ← objectAt place, name, places with
  | .cycle items i, "next", [] => do
    setObject place (.cycle items ((i + 1) % items.length))
    return items.getD i .none
  | .cycle items _, "reset", [] => do
    setObject place (.cycle items 0)
    return .none
  | .round r, name, places => roundMethod place r name places
  | .supply kind _, "close", [] => do
    setObject place (.supply kind default)
    return .none
  | .supply _ _, "send", [.none] => answerNext (.object place)
  | _, _, _ => Run.fail .wrongKind

/-! ## By kind -/

/-- What a value answers when it is asked by a name that belongs to a kind of its own line. -/
def answerMethod (k : Kind) (name : String) (self : Value) (places : List Value)
    (named : Scope) : Run Value :=
  match k, self with
  | .text, .text s => textMethod false name s places named
  | .markup, .markup s => textMethod true name s places named
  | .bytes, .bytes b => octetMethod name b places named
  | .list, .list place => listMethod place name places named
  | .mapping, .mapping place => mappingMethod place name places named
  | .group, .group key items => groupMethod key items name places named
  | k, self =>
    match name, self.integerOf? with
    | "to_bytes", some n => octetsOfNumber n places named
    | _, _ =>
      if !named.isEmpty then Run.fail .wrongKind
      else
        match k, self with
        | .tuple, .tuple items => tupleMethod items name places
        | .range, .range first last step => rangeMethod first last step name places
        | .proxy, .proxy place => proxyMethod place name places
        | .set, .set place => setMethod place name places
        | .view _, .view view place _ => viewMethod view place name places
        | _, .object place => objectMethod place name places
        | .missing _, _ => Run.fail .missing
        | _, self => numberMethod self name places

/-- Whether a name stands between low lines. -/
def isSlotName (name : String) : Bool :=
  "__".toList.isPrefixOf name.toList

/-- What a value answers when it is asked by a name of a kind to which it belongs. -/
def answerAs (k : Kind) (name : String) (self : Value) (places : List Value) (named : Scope) :
    Run Value := do
  match self, name, places with
  | .object place, "__next__", [] => do
    match ← objectAt place with
    | .cycle _ _ => objectMethod place "next" []
    | _ => answerNext self
  | self, name, places =>
    if name = "__format__" then answerSlot k name self places named
    else if isSlotName name then answerSlot k name (self.as k) places named
    else answerMethod k name (self.as k) places named

/-! ## All answers -/

/-- What a value answers when it is asked by name. -/
def applyMethod (owner : Value) (name : String) (places : List Value) (named : Scope) :
    Run Value := do
  match owner with
  | .kind k =>
    match k.trait? name with
    | some (home, .shared) => answerShared k home name places named
    | _ => answerKind k name places named
  | owner => do
    let k ← Run.reading fun w => .ok (kindOf w owner)
    match k.trait? name with
    | some (home, _) => answerAs home name owner places named
    | none => Run.fail .wrongKind

/-- What the values of a kind do under a name, applied to the first of several values. -/
def applyUnbound (k : Kind) (name : String) (places : List Value) (named : Scope) :
    Run Value := do
  match places with
  | [] => Run.fail .wrongKind
  | self :: places => do
    let own ← Run.reading fun w => .ok (kindOf w self)
    if own.line.contains k then
      match k, self with
      | .kind, .kind self => answerKind self name places named
      | k, self => answerAs k name self places named
    else Run.fail .wrongKind

end Tweaks.Banner
