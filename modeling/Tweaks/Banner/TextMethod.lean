import Tweaks.Banner.Fields
import Tweaks.Banner.Operation
import Tweaks.Text.Case
import Tweaks.Text.Encoding
import Tweaks.Text.Mark
import Tweaks.Text.Markup

/-!
# What texts do

The answers of a text to what it is asked by name.  Marked-up text answers with marked-up
text, and escapes what is put into it.
-/

namespace Tweaks.Banner

-- Powers of whole numbers are those of the core library.
attribute [local instance (5000)] instPowNat

/-! ## Arguments -/

/-- The arguments of a call by the names of its parameters, if it has room for all of
them. -/
def bindArguments (names : List String) (places : List Value) (named : Scope) :
    Except Fault Scope :=
  let free := names.drop places.length
  if places.length ≤ names.length && named.all (fun (name, _) => free.contains name) then
    .ok (names.zip places ++ named)
  else .error .wrongKind

/-- A text as an argument. -/
def textArgument (v : Value) : Except Fault String :=
  orFault .wrongKind v.textOf?

/-- A whole number as an argument. -/
def integerArgument (v : Value) : Except Fault Int :=
  orFault .wrongKind v.integerOf?

/-- A number of items or characters as an argument. -/
def sizeArgument (v : Value) : Except Fault Int := do
  let n ← integerArgument v
  if mostItems ≤ n || n < -mostItems then .error .tooLarge else return n

/-- The width of a field as an argument; one that is negative is none. -/
def widthArgument (v : Value) : Except Fault Nat := do
  let n ← sizeArgument v
  if widest < n then .error .tooMuch else return n.toNat

/-- A small number as an argument. -/
def smallArgument (v : Value) : Except Fault Int := do
  let n ← integerArgument v
  if 2 ^ (31 : Nat) ≤ n || n < -2 ^ (31 : Nat) then .error .tooLarge else return n

/-- The place that an argument gives within a length, counted from the end where it is
negative. -/
def placeArgument (length other : Nat) (v : Option Value) : Except Fault Nat :=
  match v with
  | none => .ok other
  | some .none => .ok other
  | some v => do
    let n ← integerArgument v
    return (if n < 0 then n + length else n).toNat

/-- The part of a text that is searched, and where it starts; there is none if it would
start behind its end. -/
def searchedPart (s : List Char) (bounds : List Value) :
    Except Fault (Option (List Char × Nat)) := do
  let start ← placeArgument s.length 0 bounds[0]?
  let stop := min s.length (← placeArgument s.length s.length bounds[1]?)
  if 2 < bounds.length then .error .wrongKind
  else if stop < start then return none
  else return some ((s.take stop).drop start, start)

/-! ## Texts as values -/

/-- A text as a value, marked up where the text that was asked is. -/
def textValue (isMarkup : Bool) (s : List Char) : Value :=
  if isMarkup then .markup (String.ofList s) else .text (String.ofList s)

/-- Texts as values. -/
def textValues (isMarkup : Bool) (texts : List (List Char)) : List Value :=
  texts.map (textValue isMarkup)

/-- An argument as it is put into a text. -/
def insertedText (isMarkup : Bool) (v : Value) : Run String :=
  if isMarkup then escape v else Run.lift (textArgument v)

/-- A character to fill up with. -/
def fillArgument (isMarkup : Bool) (v : Option Value) : Except Fault Char :=
  match v with
  | none => .ok ' '
  | some v => do
    let s ← textArgument v
    match (if isMarkup then escapeText s else s).toList with
    | [c] => .ok c
    | _ => .error .wrongKind

/-- What a strip drops: the characters of a text, or blanks. -/
def strippedBy (v : Option Value) : Except Fault (Char → Bool) :=
  match v with
  | none => .ok Text.isBlank
  | some .none => .ok Text.isBlank
  | some v => do
    let s ← textArgument v
    return s.toList.contains

/-- A text without some characters at its end. -/
def dropEnd (dropped : Char → Bool) (s : List Char) : List Char :=
  (s.reverse.dropWhile dropped).reverse

/-! ## Answers without arguments -/

/-- What a text answers without arguments: another text, or whether it is so. -/
def textAnswer? (name : String) (s : List Char) : Option (List Char ⊕ Bool) :=
  let all (p : Char → Bool) : Option (List Char ⊕ Bool) := some (.inr (!s.isEmpty && s.all p))
  match name with
  | "upper" => some (.inl (Text.large s))
  | "lower" => some (.inl (Text.small s))
  | "capitalize" => some (.inl (Text.capitalized s))
  | "title" => some (.inl (Text.titleWords s))
  | "swapcase" => some (.inl (Text.swapCase s))
  | "casefold" => some (.inl (Text.folded s))
  | "isalnum" => all Text.isLetterOrNumeral
  | "isalpha" => all Text.isLetter
  | "isdecimal" => all Text.isDecimalDigit
  | "isdigit" => all Text.isAnyDigit
  | "isnumeric" => all Text.isNumeral
  | "isspace" => all Text.isBlank
  | "isascii" => some (.inr (s.all fun c => c.toNat < 128))
  | "isprintable" => some (.inr (s.all Text.isPrintable))
  | "isidentifier" => some (.inr (Text.isIdentifier s))
  | "isupper" => some (.inr (Text.isLargeText s))
  | "islower" => some (.inr (Text.isSmallText s))
  | "istitle" => some (.inr (Text.isTitleText s))
  | _ => none

/-! ## Answers with arguments -/

/-- The pieces of a text between separators, or its words, as many as allowed. -/
def splitText (fromEnd : Bool) (s : List Char) (separator limit : Option Value) :
    Except Fault (List (List Char)) := do
  let limit ← (match limit with
    | none => .ok (-1)
    | some v => sizeArgument v)
  let limit := if limit < 0 then s.length + 1 else limit.toNat
  match separator with
  | none | some .none =>
    return if fromEnd then Text.wordsUpToLast Text.isBlank limit s
      else Text.wordsUpTo Text.isBlank (s.length + 1) limit s
  | some v => do
    let separator := (← textArgument v).toList
    if separator.isEmpty then .error .wrongValue
    else return if fromEnd then Text.splitOnLast separator limit s
      else Text.splitOn separator limit s

/-- The parts of a text before and behind an occurrence of another, and that text. -/
def partitionText (fromEnd : Bool) (s : List Char) (v : Value) :
    Except Fault (List (List Char)) := do
  let separator := (← textArgument v).toList
  if separator.isEmpty then .error .wrongValue
  else if fromEnd then
    match Text.splitAt? separator.reverse s.reverse with
    | some (behind, before) => return [before.reverse, separator, behind.reverse]
    | none => return [[], [], s]
  else
    match Text.splitAt? separator s with
    | some (before, behind) => return [before, separator, behind]
    | none => return [s, [], []]

/-- Whether one of several values, up to the first that does, meets a condition. -/
def anyOk {α : Type} (f : α → Except Fault Bool) : List α → Except Fault Bool
  | [] => .ok false
  | a :: rest => do if ← f a then return true else anyOk f rest

/-- Whether a text starts or ends with one of the texts that an argument gives. -/
def touches (atEnd : Bool) (s : List Char) (v : Value) (bounds : List Value) :
    Except Fault Bool := do
  let part ← searchedPart s bounds
  anyOk (fun v => do
    let t := (← textArgument v).toList
    return part.any fun (part, _) =>
      if atEnd then t.isSuffixOf part else t.isPrefixOf part) (v.tupleOf?.getD [v])

/-- The place at which a text is found in another, if it is. -/
def findText (fromEnd : Bool) (s : List Char) (v : Value) (bounds : List Value) :
    Except Fault (Option Nat) := do
  let part := (← textArgument v).toList
  match ← searchedPart s bounds with
  | none => return none
  | some (searched, start) =>
    let places := Text.placesOf part searched
    return (if fromEnd then places.getLast? else places.head?).map (· + start)

/-- The number of a character, be it half of a pair. -/
def characterNumber (c : Char) : Value :=
  .number (Text.numberOf c)

/-- A text with characters in place of others, as the parts of a value say that their numbers
ask for. -/
def exchangeText (w : World) (table : Value) : List Char → Except Fault (List Char)
  | [] => .ok []
  | c :: s => do
    let replaced ← (match subscript w table (characterNumber c) with
      | .error .noKey | .error .noPlace => .ok [c]
      | .error fault => .error fault
      | .ok .none => .ok []
      | .ok v =>
        match v.textOf? with
        | some t => .ok t.toList
        | none => do
          let n ← integerArgument v
          if n < 0 then .error .wrongValue
          else return [← orFault .wrongValue (Text.numbered? n.toNat)])
    return replaced ++ (← exchangeText w table s)

/-- The entries of a mapping by which characters are exchanged: one for another, and some for
nothing. -/
def exchangeTable (places : List Value) : Except Fault (List (Value × Value)) :=
  let numbers (s : String) : List Value := s.toList.map characterNumber
  match places with
  | old :: new :: dropped => do
    let old ← textArgument old
    let new ← textArgument new
    let dropped ← mapOk textArgument dropped
    if 1 < dropped.length then .error .wrongKind
    else if old.length ≠ new.length then .error .wrongValue
    else return (numbers old).zip (numbers new) ++
      (numbers (dropped.headD "")).map fun n => (n, .none)
  | _ => .error .wrongKind

/-- The entries of a mapping with numbers in place of the characters that are its keys. -/
def numberedKeys : List (Value × Value) → Except Fault (List (Value × Value))
  | [] => .ok []
  | (k, v) :: rest => do
    let k ← (match k.textOf? with
      | some s =>
        match s.toList with
        | [c] => .ok (characterNumber c)
        | _ => .error .wrongValue
      | none =>
        match k with
        | .decimal _ => .error .wrongKind
        | k => do
          let _ ← integerArgument k
          return k)
    return (k, v) :: (← numberedKeys rest)

/-- The fault of a text that cannot be spelled or read. -/
def misspellingFault : Text.Misspelling → Fault
  | .unspelled => .notEncodable
  | .unread => .notDecodable
  | .noMakeshift => .noEncoding
  | .onlyForTexts => .wrongKind
  | .refused => .refused

/-- A name of an encoding or a makeshift as an argument. -/
def encodingArgument (other : String) (v : Option Value) : Except Fault String := do
  let name ← (v.map textArgument).getD (.ok other)
  if !Text.isWritable name.toList then .error .notEncodable
  else if name.toList.contains '\x00' then .error .wrongValue
  else return name

/-- What is got in an encoding with a makeshift, both by their names. -/
def inEncoding {α : Type} (encoding errors : String)
    (f : Text.Encoding → Text.Makeshift → Except Text.Misspelling α) : Except Fault α := do
  let e ← orFault .noEncoding (Text.Encoding.ofName? encoding)
  (f e (.ofName errors)).mapError misspellingFault

/-- The octets of a text in an encoding. -/
def encodeText (s : List Char) (encoding errors : Option Value) :
    Except Fault (List UInt8) := do
  let encoding ← encodingArgument "utf-8" encoding
  let errors ← encodingArgument "strict" errors
  let octets ← inEncoding encoding errors fun e m => e.spell m s
  return octets.map UInt8.ofNat

/-- The text that octets spell in an encoding.  No octets spell the empty text in any. -/
def decodeOctets (octets : List UInt8) (encoding errors : Option Value) :
    Except Fault String := do
  let encoding ← encodingArgument "utf-8" encoding
  let errors ← encodingArgument "strict" errors
  if octets.isEmpty then return ""
  else
    let s ← inEncoding encoding errors fun e m => e.read m (octets.map UInt8.toNat)
    return String.ofList s

/-- What a text answers with arguments by their places. -/
def textMethodPlaced (isMarkup : Bool) (name : String) (s : List Char) (places : List Value) :
    Run Value := do
  let text (t : List Char) : Run Value := return textValue isMarkup t
  let lift {α : Type} (x : Except Fault α) : Run α := Run.lift x
  match name, places with
  | "strip", places =>
    if 1 < places.length then Run.fail .wrongKind
    else do
      let dropped ← lift (strippedBy places[0]?)
      text (dropEnd dropped (s.dropWhile dropped))
  | "lstrip", places =>
    if 1 < places.length then Run.fail .wrongKind
    else do text (s.dropWhile (← lift (strippedBy places[0]?)))
  | "rstrip", places =>
    if 1 < places.length then Run.fail .wrongKind
    else do text (dropEnd (← lift (strippedBy places[0]?)) s)
  | "replace", old :: new :: limit => do
    let old ← lift (textArgument old)
    let new ← insertedText isMarkup new
    let limit ← lift (match limit with
      | [] => .ok (-1)
      | [v] => sizeArgument v
      | _ => .error .wrongKind)
    text (Text.replaceFirst old.toList new.toList
      (if limit < 0 then s.length + 1 else limit.toNat) s)
  | "startswith", v :: bounds => do return .truth (← lift (touches false s v bounds))
  | "endswith", v :: bounds => do return .truth (← lift (touches true s v bounds))
  | "removeprefix", [v] => do
    let t := (← lift (textArgument v)).toList
    text ((Text.dropExpected? t s).getD s)
  | "removesuffix", [v] => do
    let t := (← lift (textArgument v)).toList
    text (((Text.dropExpected? t.reverse s.reverse).map List.reverse).getD s)
  | "partition", [v] => do
    return .tuple (textValues isMarkup (← lift (partitionText false s v)))
  | "rpartition", [v] => do
    return .tuple (textValues isMarkup (← lift (partitionText true s v)))
  | "join", [v] => do
    let pieces ← (if isMarkup then mapItems escape v
      else do (← itemsOf v).mapM (insertedText false))
    text (Text.join (String.ofList s) pieces).toList
  | "center", width :: fill => do
    if 1 < fill.length then Run.fail .wrongKind
    else do
      let size ← lift (sizeArgument width)
      let fill ← lift (fillArgument isMarkup fill[0]?)
      let width ← lift (widthArgument (.number size))
      text (Text.centered fill width s)
  | "ljust", width :: fill => do
    if 1 < fill.length then Run.fail .wrongKind
    else do
      let size ← lift (sizeArgument width)
      let fill ← lift (fillArgument isMarkup fill[0]?)
      let width ← lift (widthArgument (.number size))
      text (Text.padRight fill width s)
  | "rjust", width :: fill => do
    if 1 < fill.length then Run.fail .wrongKind
    else do
      let size ← lift (sizeArgument width)
      let fill ← lift (fillArgument isMarkup fill[0]?)
      let width ← lift (widthArgument (.number size))
      text (Text.padLeft fill width s)
  | "zfill", [width] => do text (Text.zeroFilled (← lift (widthArgument width)) s)
  | "find", v :: bounds => do
    return .number ((← lift (findText false s v bounds)).elim (-1) fun i => (i : Int))
  | "rfind", v :: bounds => do
    return .number ((← lift (findText true s v bounds)).elim (-1) fun i => (i : Int))
  | "index", v :: bounds => do
    return .number (← lift ((findText false s v bounds).bind (orFault .wrongValue)))
  | "rindex", v :: bounds => do
    return .number (← lift ((findText true s v bounds).bind (orFault .wrongValue)))
  | "count", v :: bounds => do
    let part := (← lift (textArgument v)).toList
    match ← lift (searchedPart s bounds) with
    | none => return .number 0
    | some (searched, _) => return .number (Text.countOf part searched)
  | "translate", [table] => do text (← Run.reading fun w => exchangeText w table s)
  | "maketrans", [.mapping place] => do
    let entries ← lift (numberedKeys (← entriesAt place))
    newMapping (← Run.reading fun w => withKeys w [] entries)
  | "maketrans", places => do
    let entries ← lift (exchangeTable places)
    newMapping (← Run.reading fun w => withKeys w [] entries)
  | "format_map", [v] => do
    let values : FieldValues :=
      ⟨if isMarkup then some [] else none, fun name => Run.reading fun w =>
        subscript w v (.text name), isMarkup⟩
    text (← fillFields values (String.ofList s)).toList
  | "striptags", [] => return .text (String.ofList (Text.plainText s))
  | "unescape", [] => return .text (String.ofList (Text.withCharacters (s.length + 1) s))
  | "escape", [v] => do return .markup (← escape v)
  | name, [] =>
    match textAnswer? name s with
    | some (.inl t) => text t
    | some (.inr b) => return .truth b
    | none => Run.fail .wrongKind
  | _, _ => Run.fail .wrongKind

/-- What a text answers when it is asked by name. -/
def textMethod (isMarkup : Bool) (name s : String) (places : List Value) (named : Scope) :
    Run Value := do
  let lift {α : Type} (x : Except Fault α) : Run α := Run.lift x
  match name with
  | "format" => do
    let values : FieldValues :=
      ⟨some places, fun name => Run.lift (orFault .noKey (named.lookup name)), isMarkup⟩
    return textValue isMarkup (← fillFields values s).toList
  | "split" => do
    let given ← lift (bindArguments ["sep", "maxsplit"] places named)
    newList (textValues isMarkup
      (← lift (splitText false s.toList (given.lookup "sep") (given.lookup "maxsplit"))))
  | "rsplit" => do
    let given ← lift (bindArguments ["sep", "maxsplit"] places named)
    newList (textValues isMarkup
      (← lift (splitText true s.toList (given.lookup "sep") (given.lookup "maxsplit"))))
  | "splitlines" => do
    let given ← lift (bindArguments ["keepends"] places named)
    let keep ← lift (match given.lookup "keepends" with
      | none => .ok 0
      | some v => smallArgument v)
    newList (textValues isMarkup
      (if keep ≠ 0 then Text.linesWithEnds Text.endsLine [] s.toList else Text.linesOf s.toList))
  | "expandtabs" => do
    let given ← lift (bindArguments ["tabsize"] places named)
    let size ← lift (match given.lookup "tabsize" with
      | none => .ok 8
      | some v => smallArgument v)
    return textValue isMarkup (Text.expandTabs size.toNat 0 s.toList)
  | "encode" => do
    let given ← lift (bindArguments ["encoding", "errors"] places named)
    return .bytes (← lift (encodeText s.toList (given.lookup "encoding") (given.lookup "errors")))
  | name =>
    if named.isEmpty then textMethodPlaced isMarkup name s.toList places
    else Run.fail .wrongKind

end Tweaks.Banner
