import Tweaks.Banner.Filter.Basic
import Tweaks.Text.Link
import Tweaks.Text.Order
import Tweaks.Text.Rule
import Tweaks.Text.WordWrap

/-!
# Filters of texts

What the filters make of texts: letters in other sizes, fields and margins, lines of words,
what is left out or put in, and marked-up text.

Main results:

- `applyRule_usual`: without a width a text stands in a rule of the usual width.
-/

namespace Tweaks.Banner

/-! ## Words -/

/-- Whether a word starts behind a character. -/
def startsWord (c : Char) : Bool :=
  Text.isBlank c || "-(\x7b[<".toList.contains c

/-- A text with a large letter at the start of every word, and small ones behind it. -/
def titleWords (s : List Char) : List Char :=
  (s.splitBy fun c d => startsWord c = startsWord d).flatMap fun word =>
    match word with
    | [] => []
    | c :: rest => Text.toLarge c ++ Text.small rest

/-- The number of words in a text. -/
def wordCount (s : List Char) : Nat :=
  (s.splitBy fun c d => Text.isWordChar c = Text.isWordChar d).countP fun word =>
    word.head?.any Text.isWordChar

/-! ## Joined texts -/

/-- Values as texts, one after the other with a text between them. -/
def joinedBy (separator : Value) (items : List Value) : Run Value :=
  match separator with
  | .markup d => do return .markup (Text.join d (← items.mapM escape))
  | separator => do return .text (Text.join (separator.textOf?.getD "") (← items.mapM say))

/-- The value of `join`.  Where values are escaped, one that is marked up makes the text
marked up. -/
def applyJoin (given : Scope) (v : Value) : Run Value := do
  let d := argumentOr given "d" (.text "")
  let path ← Run.lift ((option given "attribute").elim (.ok []) pathOf)
  let escapes ← Run.reading fun w => .ok w.escapes
  if !escapes then
    let d ← say d
    let texts ← mapItems (fun item => do say (← follow none path item)) v
    return .text (Text.join d texts)
  else
    let items ← mapItems (follow none path) v
    let isMarkup (v : Value) : Bool := match v with
      | .markup _ => true
      | _ => false
    if isMarkup d then joinedBy d items
    else if items.any isMarkup then
      joinedBy (.markup (← escape d)) items
    else joinedBy (.text (← say d)) items

/-! ## Parts put in or left out -/

/-- A text with another one put in for the parts of it that are equal to a third one, from
the left as often as a limit allows. -/
def replaced (limit : Int) (old new s : String) : String :=
  String.ofList (Text.replaceFirst old.toList new.toList
    (if limit < 0 then s.length + 1 else limit.toNat) s.toList)

/-- The value of `replace`. -/
def applyReplace (given : Scope) (v : Value) : Run Value := do
  let old := argumentOr given "old" .none
  let new := argumentOr given "new" .none
  let limit : Run Int := Run.lift ((option given "count").elim (.ok (-1)) sizeArgument)
  let escapes ← Run.reading fun w => .ok w.escapes
  if !escapes then
    let s ← say v
    let old ← say old
    let new ← say new
    return .text (replaced (← limit) old new s)
  else
    let v ← (match v, old, new with
      | v, .markup _, _ => do return .markup (← escape v)
      | .markup s, _, _ => return .markup s
      | v, _, .markup _ => do return .markup (← escape v)
      | v, _, _ => softText v)
    let old ← say old
    match v with
    | .markup s => do
      let new ← escape new
      return .markup (replaced (← limit) old new s)
    | v => do
      let new ← say new
      return .text (replaced (← limit) old new (v.textOf?.getD ""))

/-- The value of `trim`. -/
def applyTrim (given : Scope) (v : Value) : Run Value := do
  let (isMarkup, s) ← textOf v
  let dropped ← Run.lift (strippedBy (given.lookup "chars"))
  return textValue isMarkup (dropEnd dropped (s.dropWhile dropped))

/-- The start of a text before its last blank, or all of it where there is none. -/
def beforeLastBlank (v : Value) : Except Fault Value :=
  let before (s : String) : String :=
    String.ofList ((Text.splitOnLast [' '] 1 s.toList).headD [])
  match v with
  | .text s => .ok (.text (before s))
  | .markup s => .ok (.markup (before s))
  | .bytes _ => .error .wrongKind
  | _ => .error .noPart

/-- The value of `truncate`: one that is but a little longer than asked for stays as it is. -/
def applyTruncate (given : Scope) (v : Value) : Run Value := do
  let length := argumentOr given "length" (.number 255)
  let ending := argumentOr given "end" (.text "...")
  let leeway := (option given "leeway").getD (.number 5)
  let endLength := Value.number (← lengthOf ending)
  if !(← compare .atLeast length endLength) then Run.fail .unmet
  else if !(← compare .atLeast leeway (.number 0)) then Run.fail .unmet
  else
    let n ← lengthOf v
    if ← compare .atMost (.number n) (← operate .add length leeway) then return v
    else
      let cuts ← flag given "killwords" false
      let kept ← sliceOf v .none (← operate .subtract length endLength) .none
      operate .add (← if cuts then pure kept else Run.lift (beforeLastBlank kept)) ending

/-! ## Lines -/

/-- The value of `indent`: the lines of a text behind a margin. -/
def applyIndent (given : Scope) (v : Value) : Run Value := do
  let width := argumentOr given "width" (.number 4)
  let first ← flag given "first" false
  let blank ← flag given "blank" false
  let margin ← (match width.textOf? with
    | some _ => pure width
    | none => operate .multiply (.text " ") width)
  let margin := match v with
    | .markup _ => Value.markup (margin.textOf?.getD "")
    | _ => margin
  let lay (isMarkup : Bool) (s : String) : Run Value := do
    let newline := textValue isMarkup ['\n']
    let lines := textValues isMarkup (Text.linesOf (s.toList ++ ['\n']))
    let behind (line : Value) : Run Value :=
      if line.textOf? = some "" then pure line else operate .add margin line
    let text ← (if blank then do joinedBy (← operate .add newline margin) lines
      else
        match lines with
        | line :: next :: rest => do
          let others ← joinedBy newline (← (next :: rest).mapM behind)
          operate .add line (← operate .add newline others)
        | lines => pure (lines.headD (textValue isMarkup [])))
    if first then operate .add margin text else return text
  match v with
  | .text s => lay false s
  | .markup s => lay true s
  | .list _ => Run.fail .noPart
  | .missing _ => Run.fail .missing
  | _ => Run.fail .wrongKind

/-- The width of lines that a value asks for; it is more than nothing. -/
def lineWidth (v : Value) : Run Nat := do
  if ← compare .atMost v (.number 0) then Run.fail .wrongValue
  else
    match v with
    | .decimal x => return (Decimal.truncated x).toNat
    | v => return (v.integerOf?.getD 0).toNat

/-- A line cut between words.  Where a word would be cut, lines take a whole number of
characters, or less than one. -/
def wrapLine (width : Value) (hyphens cutsWords : Bool) (line : List Char) :
    Run (List (List Char)) := do
  let style : Text.WrapStyle := ⟨← lineWidth width, hyphens, cutsWords⟩
  if width.integerOf?.isNone && 1 ≤ style.width && Text.cutsWord style line then
    Run.fail .wrongKind
  else return Text.wrapped style line

/-- The value of `wordwrap`: the lines of a text cut between words. -/
def applyWordWrap (given : Scope) (v : Value) : Run Value := do
  let width := argumentOr given "width" (.number 79)
  let cutsWords ← flag given "break_long_words" true
  let hyphens ← flag given "break_on_hyphens" true
  let separator := (option given "wrapstring").getD (.text "\n")
  match separator.textOf?, v.textOf? with
  | none, _ => Run.fail (if separator.isMissing then .missing else .noPart)
  | _, none =>
    match v with
    | .bytes b => if b.isEmpty then return .text "" else Run.fail .wrongKind
    | v => Run.fail (if v.isMissing then .missing else .noPart)
  | some _, some s => do
    let paragraphs ← (Text.linesOf s.toList).mapM fun line => do
      joinedBy separator (textValues false (← wrapLine width hyphens cutsWords line))
    joinedBy separator paragraphs

/-! ## Marked-up text -/

/-- A value as text that is marked up already. -/
def applySafe (v : Value) : Run Value := do
  return .markup (← say v)

/-- A value as marked-up text. -/
def applyEscape (v : Value) : Run Value := do
  return .markup (← escape v)

/-- A value as marked-up text, be it so already. -/
def applyForceEscape (v : Value) : Run Value := do
  return .markup (escapeText (← say v))

/-- Whether a text is the start of an address: two letters or more, a colon, and up to two
slashes. -/
def isScheme (s : List Char) : Bool :=
  let slashes := s.reverse.takeWhile (· = '/')
  match s.reverse.drop slashes.length with
  | ':' :: before => slashes.length ≤ 2 && 2 ≤ before.length &&
      before.all fun c => Text.isWordChar c || c = '.' || c = '+' || c = '-'
  | _ => false

/-- The starts of addresses that an argument gives. -/
def schemesOf (v : Option Value) : Run (List (List Char)) := do
  match v with
  | none => return []
  | some v =>
    (← itemsOf v).mapM fun item => do
      let s := (← Run.lift (textArgument item)).toList
      if isScheme s then return s else Run.fail .unfit

/-- A part of the tag of a link: a name with its value. -/
def linkPart (name s : String) : List Char :=
  if s.isEmpty then []
  else " ".toList ++ name.toList ++ "=\x22".toList ++ (escapeText s).toList ++ ['\x22']

/-- The value of `urlize`: a text with links for its addresses. -/
def applyUrlize (given : Scope) (v : Value) : Run Value := do
  let rel := (option given "rel").getD (.text "")
  let kinds ← (if ← isTrue rel then
      Run.lift (orFault .noPart (rel.textOf?.map fun s => (Text.words s.toList).map String.ofList))
    else pure [])
  let nofollow ← flag given "nofollow" false
  let kinds := Text.sortDistinct
    (kinds ++ (if nofollow then ["nofollow"] else []) ++ ["noopener"])
  let schemes ← schemesOf (option given "extra_schemes")
  let shown ← Run.lift ((option given "trim_url_limit").elim (.ok none) fun v =>
    (integerArgument v).map some)
  let s ← escape v
  let target ← (match option given "target" with
    | none => pure ""
    | some v => do if ← isTrue v then say v else return "")
  let extra := linkPart "rel" (Text.join " " kinds) ++ linkPart "target" target
  let linked := Text.withLinks ⟨shown, extra, schemes⟩ s.toList
  return textValue (← Run.reading fun w => .ok w.escapes) linked

/-! ## Rules -/

/-- The value of `rule`: a text in the middle of dashes. -/
def applyRule (given : Scope) (v : Value) : Run Value := do
  let width ← say (argumentOr given "width" (.number Text.usualWidth))
  return .text (← layValue v ("-^" ++ width))

/-- Without a width a text stands in a rule of the usual width. -/
theorem applyRule_usual (s : String) :
    applyRule [] (.text s) = do return .text (← layValue (.text s) "-^60") := by
  have short : Document.isTooLong 60 = false :=
    Document.isTooLong_of_log2_lt (by decide)
  have digits : Document.integerText 60 = "60" := by cbv
  have width : say (argumentOr [] "width" (.number Text.usualWidth)) = pure "60" := by
    show say (.number 60) = pure "60"
    rw [say_number]
    simp [numberText, Document.integerText?, short, digits, orFault]
    rfl
  have layout : "-^" ++ "60" = "-^60" := by decide
  simp only [applyRule, width, pure_bind, layout]

/-! ## Table -/

/-- The filters of texts. -/
def textFilters : Filters := [
  ("capitalize", .plain fun v => mapText v Text.capitalized),
  ("center", ⟨["width"], 0, fun given v => do
    let (isMarkup, s) ← textOf v
    let width ← Run.lift (widthArgument (argumentOr given "width" (.number 80)))
    return textValue isMarkup (Text.centered ' ' width s)⟩),
  ("e", .plain applyEscape),
  ("escape", .plain applyEscape),
  ("forceescape", .plain applyForceEscape),
  ("indent", ⟨["width", "first", "blank"], 0, applyIndent⟩),
  ("join", ⟨["d", "attribute"], 0, applyJoin⟩),
  ("lower", .plain fun v => mapText v Text.small),
  ("replace", ⟨["old", "new", "count"], 2, applyReplace⟩),
  ("rule", ⟨["width"], 0, applyRule⟩),
  ("safe", .plain applySafe),
  ("string", .plain softText),
  ("striptags", .plain fun v => do
    return .text (String.ofList (Text.plainText (← plainOf v)))),
  ("title", .plain fun v => do return .text (String.ofList (titleWords (← textOf v).2))),
  ("trim", ⟨["chars"], 0, applyTrim⟩),
  ("truncate", ⟨["length", "killwords", "end", "leeway"], 0, applyTruncate⟩),
  ("upper", .plain fun v => mapText v Text.large),
  ("urlize",
    ⟨["trim_url_limit", "nofollow", "target", "rel", "extra_schemes"], 0, applyUrlize⟩),
  ("wordcount", .plain fun v => do return .number (wordCount (← textOf v).2)),
  ("wordwrap", ⟨["width", "break_long_words", "wrapstring", "break_on_hyphens"], 0,
    applyWordWrap⟩)]

end Tweaks.Banner
