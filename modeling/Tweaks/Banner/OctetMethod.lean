import Tweaks.Banner.NumberMethod

/-!
# What octets do

The answers of octets to what they are asked by name.  Octets are handled like the characters
with their numbers, but only those of ASCII have a size or belong to a class.
-/

namespace Tweaks.Banner

/-! ## Octets as characters -/

/-- The characters with the numbers of octets. -/
def octetChars (b : List UInt8) : List Char :=
  b.map octetChar

/-- Characters as a value of octets. -/
def octetValue (s : List Char) : Value :=
  .bytes (octetsOf s)

/-- Octets as an argument. -/
def octetsArgument (v : Value) : Except Fault (List Char) :=
  match v with
  | .bytes b => .ok (octetChars b)
  | _ => .error .wrongKind

/-- Octets that are searched for as an argument: one of them may be given by its number. -/
def partArgument (v : Value) : Except Fault (List Char) :=
  match v with
  | .bytes b => .ok (octetChars b)
  | v => do return [octetChar (← octetArgument v)]

/-- An octet to fill up with. -/
def octetFill (v : Option Value) : Except Fault Char :=
  match v with
  | none => .ok ' '
  | some v => do
    match ← octetsArgument v with
    | [c] => return c
    | _ => .error .wrongKind

/-- What a strip drops from octets: those of an argument, or blanks. -/
def strippedOctets (v : Option Value) : Except Fault (Char → Bool) :=
  match v with
  | none => .ok Decimal.isPlainBlank
  | some .none => .ok Decimal.isPlainBlank
  | some v => do
    let s ← octetsArgument v
    return s.contains

/-- The largest number of pieces or replacements that an argument asks for. -/
def limitArgument (length : Nat) (v : Option Value) : Except Fault Nat := do
  match v with
  | none => return length + 1
  | some v => do
    let n ← sizeArgument v
    return if n < 0 then length + 1 else n.toNat

/-! ## Answers without arguments -/

/-- Octets with a letter large where it begins a word, and small elsewhere. -/
def octetTitle (inWord : Bool) : List Char → List Char
  | [] => []
  | c :: s => (if inWord then c.toLower else c.toUpper) :: octetTitle c.isAlpha s

/-- Whether the letters that begin words, and only these, are large. -/
def isOctetTitle (inWord : Bool) : List Char → Bool
  | [] => true
  | c :: s => (if c.isUpper then !inWord else if c.isLower then inWord else true) &&
      isOctetTitle c.isAlpha s

/-- What octets answer without arguments: other ones, or whether they are so. -/
def octetAnswer? (name : String) (s : List Char) : Option (List Char ⊕ Bool) :=
  let all (p : Char → Bool) : Option (List Char ⊕ Bool) := some (.inr (!s.isEmpty && s.all p))
  match name with
  | "upper" => some (.inl (s.map Char.toUpper))
  | "lower" => some (.inl (s.map Char.toLower))
  | "capitalize" => some (.inl ((s.take 1).map Char.toUpper ++ (s.drop 1).map Char.toLower))
  | "title" => some (.inl (octetTitle false s))
  | "swapcase" =>
    some (.inl (s.map fun c => if c.isUpper then c.toLower else c.toUpper))
  | "isalnum" => all Char.isAlphanum
  | "isalpha" => all Char.isAlpha
  | "isdigit" => all Char.isDigit
  | "isspace" => all Decimal.isPlainBlank
  | "isascii" => some (.inr (s.all fun c => c.toNat < 128))
  | "isupper" => some (.inr (s.any Char.isUpper && !s.any Char.isLower))
  | "islower" => some (.inr (s.any Char.isLower && !s.any Char.isUpper))
  | "istitle" => some (.inr (s.any Char.isAlpha && isOctetTitle false s))
  | _ => none

/-! ## Digits -/

/-- Octets in groups of a size, the last of which may be smaller. -/
def hexGroups (size : Nat) (b : List UInt8) : List (List UInt8) :=
  if _h : size = 0 ∨ b.length ≤ size then [b]
  else b.take size :: hexGroups size (b.drop size)
termination_by b.length
decreasing_by
  simp only [List.length_drop]
  omega

/-- The character between groups of digits, as an argument. -/
def separatorArgument (v : Value) : Run String := do
  let n ← lengthOf v
  if n ≠ 1 then Run.fail .wrongValue
  else
    let s ← Run.lift (match v with
      | .bytes b => .ok (octetChars b)
      | v => (textArgument v).map String.toList)
    if s.all fun c => c.toNat < 128 then return String.ofList s else Run.fail .wrongValue

/-- The digits of octets to the base sixteen, in groups that count from the end, or from the
start where their size is negative. -/
def hexText (separator : String) (size : Int) (b : List UInt8) : String :=
  let groups := if size < 0 then hexGroups size.natAbs b
    else ((hexGroups size.natAbs b.reverse).map List.reverse).reverse
  Text.join separator (groups.map fun group =>
    String.ofList (group.flatMap fun b => Text.hexDigits 2 b.toNat))

/-- The octets that digits to the base sixteen stand for; there may be blanks between them. -/
def octetsOfHex? : List Char → Option (List UInt8)
  | [] => some []
  | c :: s =>
    if Decimal.isPlainBlank c then octetsOfHex? s
    else
      match s with
      | [] => none
      | d :: s => do
        let high ← Text.hexDigit? c
        let low ← Text.hexDigit? d
        return UInt8.ofNat (16 * high + low) :: (← octetsOfHex? s)

/-! ## Answers with arguments -/

/-- The pieces of octets between separators, or their words, as many as allowed. -/
def splitOctets (fromEnd : Bool) (s : List Char) (separator limit : Option Value) :
    Except Fault (List (List Char)) := do
  let limit ← limitArgument s.length limit
  match separator with
  | none | some .none =>
    return if fromEnd then Text.wordsUpToLast Decimal.isPlainBlank limit s
      else Text.wordsUpTo Decimal.isPlainBlank (s.length + 1) limit s
  | some v => do
    let separator ← octetsArgument v
    if separator.isEmpty then .error .wrongValue
    else return if fromEnd then Text.splitOnLast separator limit s
      else Text.splitOn separator limit s

/-- The parts of octets before and behind an occurrence of others, and those others. -/
def partitionOctets (fromEnd : Bool) (s : List Char) (v : Value) :
    Except Fault (List (List Char)) := do
  let separator ← octetsArgument v
  if separator.isEmpty then .error .wrongValue
  else if fromEnd then
    match Text.splitAt? separator.reverse s.reverse with
    | some (behind, before) => return [before.reverse, separator, behind.reverse]
    | none => return [[], [], s]
  else
    match Text.splitAt? separator s with
    | some (before, behind) => return [before, separator, behind]
    | none => return [s, [], []]

/-- Whether octets start or end with one of those that an argument gives. -/
def octetsTouch (atEnd : Bool) (s : List Char) (v : Value) (bounds : List Value) :
    Except Fault Bool := do
  let part ← searchedPart s bounds
  anyOk (fun v => do
    let t ← octetsArgument v
    return part.any fun (part, _) =>
      if atEnd then t.isSuffixOf part else t.isPrefixOf part) (v.tupleOf?.getD [v])

/-- The place at which octets are found in others, if they are. -/
def findOctets (fromEnd : Bool) (s : List Char) (v : Value) (bounds : List Value) :
    Except Fault (Option Nat) := do
  let searched ← searchedPart s bounds
  let part ← partArgument v
  match searched with
  | none => return none
  | some (searched, start) =>
    let places := Text.placesOf part searched
    return (if fromEnd then places.getLast? else places.head?).map (· + start)

/-- Octets with others in place of them, as a table of all of them says, and without some. -/
def exchangeOctets (b : List UInt8) (table : Value) (dropped : Option Value) :
    Except Fault (List UInt8) := do
  let table ← (match table with
    | .none => .ok none
    | .bytes t => if t.length = 256 then .ok (some t) else .error .wrongValue
    | _ => .error .wrongKind)
  let dropped ← (dropped.map octetsArgument).getD (.ok [])
  let kept := b.filter fun b => !dropped.contains (octetChar b)
  return match table with
    | none => kept
    | some t => kept.map fun b => t.getD b.toNat b

/-- The table of all octets that has some in place of others. -/
def octetTable (old new : List UInt8) : Except Fault (List UInt8) :=
  if old.length ≠ new.length then .error .wrongValue
  else .ok ((old.zip new).foldl (fun table (o, n) => table.set o.toNat n)
    ((List.range 256).map UInt8.ofNat))

/-- Octets beside others until they are as many as asked for. -/
def widened (fill : Char → Nat → List Char → List Char) (s : List Char) (width : Value)
    (c : Option Value) : Except Fault Value := do
  let size ← sizeArgument width
  let c ← octetFill c
  return octetValue (fill c (← widthArgument (.number size)) s)

/-- What octets answer with arguments by their places. -/
def octetMethodPlaced (name : String) (b : List UInt8) (places : List Value) : Run Value := do
  let s := octetChars b
  let lift {α : Type} (x : Except Fault α) : Run α := Run.lift x
  let octets (t : List Char) : Run Value := return octetValue t
  match name, places with
  | "strip", places =>
    if 1 < places.length then Run.fail .wrongKind
    else do
      let dropped ← lift (strippedOctets places[0]?)
      octets (dropEnd dropped (s.dropWhile dropped))
  | "lstrip", places =>
    if 1 < places.length then Run.fail .wrongKind
    else do octets (s.dropWhile (← lift (strippedOctets places[0]?)))
  | "rstrip", places =>
    if 1 < places.length then Run.fail .wrongKind
    else do octets (dropEnd (← lift (strippedOctets places[0]?)) s)
  | "replace", old :: new :: limit => do
    if 1 < limit.length then Run.fail .wrongKind
    else do
      let old ← lift (octetsArgument old)
      let new ← lift (octetsArgument new)
      octets (Text.replaceFirst old new (← lift (limitArgument s.length limit[0]?)) s)
  | "startswith", v :: bounds => do return .truth (← lift (octetsTouch false s v bounds))
  | "endswith", v :: bounds => do return .truth (← lift (octetsTouch true s v bounds))
  | "removeprefix", [v] => do
    octets ((Text.dropExpected? (← lift (octetsArgument v)) s).getD s)
  | "removesuffix", [v] => do
    let t ← lift (octetsArgument v)
    octets (((Text.dropExpected? t.reverse s.reverse).map List.reverse).getD s)
  | "partition", [v] => do
    return .tuple ((← lift (partitionOctets false s v)).map octetValue)
  | "rpartition", [v] => do
    return .tuple ((← lift (partitionOctets true s v)).map octetValue)
  | "join", [v] => do
    octets (Text.joinWith s (← (← itemsOf v).mapM fun v => lift (octetsArgument v)))
  | "center", width :: fill =>
    if 1 < fill.length then Run.fail .wrongKind
    else lift (widened Text.centered s width fill[0]?)
  | "ljust", width :: fill =>
    if 1 < fill.length then Run.fail .wrongKind
    else lift (widened Text.padRight s width fill[0]?)
  | "rjust", width :: fill =>
    if 1 < fill.length then Run.fail .wrongKind
    else lift (widened Text.padLeft s width fill[0]?)
  | "zfill", [width] => do octets (Text.zeroFilled (← lift (widthArgument width)) s)
  | "find", v :: bounds => do
    return .number ((← lift (findOctets false s v bounds)).elim (-1) fun i => (i : Int))
  | "rfind", v :: bounds => do
    return .number ((← lift (findOctets true s v bounds)).elim (-1) fun i => (i : Int))
  | "index", v :: bounds => do
    return .number (← lift ((findOctets false s v bounds).bind (orFault .wrongValue)))
  | "rindex", v :: bounds => do
    return .number (← lift ((findOctets true s v bounds).bind (orFault .wrongValue)))
  | "count", v :: bounds => do
    let searched ← lift (searchedPart s bounds)
    let part ← lift (partArgument v)
    match searched with
    | none => return .number 0
    | some (searched, _) => return .number (Text.countOf part searched)
  | name, [] =>
    match octetAnswer? name s with
    | some (.inl t) => octets t
    | some (.inr b) => return .truth b
    | none => Run.fail .wrongKind
  | _, _ => Run.fail .wrongKind

/-- What octets answer when they are asked by name. -/
def octetMethod (name : String) (b : List UInt8) (places : List Value) (named : Scope) :
    Run Value := do
  let s := octetChars b
  let lift {α : Type} (x : Except Fault α) : Run α := Run.lift x
  match name with
  | "split" => do
    let given ← lift (bindArguments ["sep", "maxsplit"] places named)
    newList ((← lift (splitOctets false s (given.lookup "sep") (given.lookup "maxsplit"))).map
      octetValue)
  | "rsplit" => do
    let given ← lift (bindArguments ["sep", "maxsplit"] places named)
    newList ((← lift (splitOctets true s (given.lookup "sep") (given.lookup "maxsplit"))).map
      octetValue)
  | "splitlines" => do
    let given ← lift (bindArguments ["keepends"] places named)
    let keep ← lift ((given.lookup "keepends").elim (.ok 0) smallArgument)
    newList ((if keep ≠ 0 then Text.linesWithEnds Text.isBreak [] s
      else Text.linesEndedBy Text.isBreak s).map octetValue)
  | "expandtabs" => do
    let given ← lift (bindArguments ["tabsize"] places named)
    let size ← lift ((given.lookup "tabsize").elim (.ok 8) smallArgument)
    return octetValue (Text.expandTabs size.toNat 0 s)
  | "decode" => do
    let given ← lift (bindArguments ["encoding", "errors"] places named)
    return .text (← lift (decodeOctets b (given.lookup "encoding") (given.lookup "errors")))
  | "hex" => do
    let given ← lift (bindArguments ["sep", "bytes_per_sep"] places named)
    let size ← lift ((given.lookup "bytes_per_sep").elim (.ok 1) smallArgument)
    match given.lookup "sep" with
    | none => return .text (hexText "" 0 b)
    | some v => return .text (hexText (← separatorArgument v) size b)
  | "translate" => do
    match places with
    | [] => Run.fail .wrongKind
    | table :: rest => do
      let given ← lift (bindArguments ["delete"] rest named)
      return .bytes (← lift (exchangeOctets b table (given.lookup "delete")))
  | name =>
    if named.isEmpty then octetMethodPlaced name b places
    else Run.fail .wrongKind

end Tweaks.Banner
