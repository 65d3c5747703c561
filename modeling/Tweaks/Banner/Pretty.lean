import Tweaks.Banner.Show
import Tweaks.Banner.Sorting
import Tweaks.Text.Split

/-!
# Values on lines of their own

How values are shown on lines of no more than a number of characters: a list or mapping that
does not fit on a line has a line for each of its parts, and a long text is cut between
words.  Mappings are shown in the order of their keys.
-/

namespace Tweaks.Banner

/-- The width of lines. -/
def prettyWidth : Int := 80

/-! ## On one line -/

/-- Whether a value comes before another; those that cannot be compared go by the names of
their kinds. -/
def comesBefore (w : World) (a b : Value) : Except Fault Bool :=
  match isOrdered w .less a b with
  | .error .wrongKind => .ok (decide ((kindOf w a).fullName < (kindOf w b).fullName))
  | answer => answer

/-- Entries in the order of their keys. -/
def sortedEntries (entries : List (Value × Value)) : Run (List (Value × Value)) :=
  Run.reading fun w => sortByKeys (comesBefore w) entries

/-- A value on one line. -/
def onOneLine : (fuel : Nat) → (lists mappings : List Nat) → Value → Run String
  | 0, _, _, _ => Run.fail .tooDeep
  | fuel + 1, lists, mappings, v => do
    match v with
    | .tuple [v] => return "(" ++ (← onOneLine fuel lists mappings v) ++ ",)"
    | .tuple items => return bracketed "(" ")" (← items.mapM (onOneLine fuel lists mappings))
    | .list place =>
      if lists.contains place then return "[...]"
      else
        let pieces ← (← listAt place).mapM (onOneLine fuel (place :: lists) mappings)
        return bracketed "[" "]" pieces
    | .mapping place =>
      if mappings.contains place then return "\x7b...\x7d"
      else
        let entries ← sortedEntries (← entriesAt place)
        let pieces ← entries.mapM fun (k, v) => do
          let key ← onOneLine fuel lists (place :: mappings) k
          return key ++ ": " ++ (← onOneLine fuel lists (place :: mappings) v)
        return bracketed "\x7b" "\x7d" pieces
    | v => shown v

/-! ## Long texts -/

/-- A text in runs of other characters with the blanks behind them. -/
def wordRuns : (fuel : Nat) → List Char → List (List Char)
  | 0, s => [s]
  | _, [] => []
  | fuel + 1, s =>
    let word := s.takeWhile fun c => !Text.isBlank c
    let rest := s.dropWhile fun c => !Text.isBlank c
    (word ++ rest.takeWhile Text.isBlank) :: wordRuns fuel (rest.dropWhile Text.isBlank)

/-- Whether a text between quotes fits on a line. -/
def fitsOn (width : Int) (s : List Char) : Bool :=
  (Text.quote (String.ofList s)).length ≤ width

/-- Runs put together as far as they fit on a line.  The last one has less room. -/
def fillLines (width lastWidth : Int) (current : List Char) :
    List (List Char) → List (List Char)
  | [] => if current.isEmpty then [] else [current]
  | run :: rest =>
    if fitsOn (if rest.isEmpty then lastWidth else width) (current ++ run) then
      fillLines width lastWidth (current ++ run) rest
    else
      (if current.isEmpty then [] else [current]) ++ fillLines width lastWidth run rest

/-- The lines of a text as far as they fit on lines of a width.  The last one has less
room. -/
def textLines (width lastWidth : Int) : List (List Char) → List (List Char)
  | [] => []
  | line :: rest =>
    let room := if rest.isEmpty then lastWidth else width
    (if fitsOn room line then [line]
      else fillLines width room [] (wordRuns (line.length + 1) line)) ++
      textLines width lastWidth rest

/-- A line break with a margin behind it. -/
def breakLine (indent : Nat) : String :=
  "\n" ++ String.ofList (List.replicate indent ' ')

/-- A long text, between brackets if it stands by itself. -/
def prettyText (indent : Nat) (allowance : Int) (isOutermost : Bool) (s : String) : String :=
  let indent := if isOutermost then indent + 1 else indent
  let allowance := if isOutermost then allowance + 1 else allowance
  let width := prettyWidth - indent
  let lines := Text.linesWithEnds Text.endsLine [] s.toList
  match textLines width (width - allowance) lines with
  | [_] => Text.quote (String.ofList (lines.getLastD []))
  | pieces =>
    let written := Text.join (breakLine indent)
      (pieces.map fun piece => Text.quote (String.ofList piece))
    if isOutermost then "(" ++ written ++ ")" else written

/-- Octets in fours, put together as far as they fit on a line.  The last ones have less
room. -/
def byteLines (width lastWidth : Int) : (fuel : Nat) → (current rest : List UInt8) →
    List (List UInt8)
  | 0, current, _ => [current]
  | fuel + 1, current, rest =>
    if rest.isEmpty then (if current.isEmpty then [] else [current])
    else
      let room := if rest.length < 4 then lastWidth else width
      let candidate := current ++ rest.take 4
      if ((Text.quoteBytes candidate).length : Int) ≤ room then
        byteLines width lastWidth fuel candidate (rest.drop 4)
      else
        (if current.isEmpty then [] else [current]) ++
          byteLines width lastWidth fuel (rest.take 4) (rest.drop 4)

/-- Many octets, between brackets if they stand by themselves. -/
def prettyBytes (indent : Nat) (allowance : Int) (isOutermost : Bool) (b : List UInt8) :
    String :=
  if b.length ≤ 4 then Text.quoteBytes b
  else
    let indent := if isOutermost then indent + 1 else indent
    let allowance := if isOutermost then allowance + 1 else allowance
    let width := prettyWidth - indent
    let written := Text.join (breakLine indent)
      ((byteLines width (width - allowance) (b.length + 1) [] b).map Text.quoteBytes)
    if isOutermost then "(" ++ written ++ ")" else written

/-! ## Values -/

/-- A value behind a margin, with so many characters behind it on its last line. -/
def prettyWithin : (fuel : Nat) → (indent : Nat) → (allowance : Int) → (isOutermost : Bool) →
    (lists mappings : List Nat) → Value → Run String
  | 0, _, _, _, _, _, _ => Run.fail .tooDeep
  | fuel + 1, indent, allowance, isOutermost, lists, mappings, v => do
    let line ← onOneLine deepest lists mappings v
    let items (opening closing : String) (lists : List Nat) (items : List Value) :
        Run String := do
      let last := items.length - 1
      let pieces ← items.zipIdx.mapM fun (v, i) =>
        prettyWithin fuel (indent + 1) (if i = last then allowance + closing.length else 1)
          false lists mappings v
      return opening ++ Text.join ("," ++ breakLine (indent + 1)) pieces ++ closing
    if (line.length : Int) ≤ prettyWidth - indent - allowance then return line
    else
      match v with
      | .tuple [v] => items "(" ",)" lists [v]
      | .tuple values => items "(" ")" lists values
      | .list place => do
        if lists.contains place then return line
        else items "[" "]" (place :: lists) (← listAt place)
      | .set place => do
        let members ← Run.reading fun w =>
          sortByKeys (comesBefore w) ((w.membersAt place).map fun v => (v, v))
        items "\x7b" "\x7d" lists (members.map Prod.fst)
      | .mapping place =>
        if mappings.contains place then return line
        else do
          let entries ← sortedEntries (← entriesAt place)
          let last := entries.length - 1
          let pieces ← entries.zipIdx.mapM fun ((k, v), i) => do
            let key ← onOneLine deepest lists (place :: mappings) k
            let written ← prettyWithin fuel (indent + 1 + key.length + 2)
              (if i = last then allowance + 1 else 1) false lists (place :: mappings) v
            return key ++ ": " ++ written
          return "\x7b" ++ Text.join ("," ++ breakLine (indent + 1)) pieces ++ "\x7d"
      | .proxy place => do
        let written ← prettyWithin fuel (indent + 13) (allowance + 1) false lists mappings
          (.mapping place)
        return "mappingproxy(" ++ written ++ ")"
      | .text s => return if s.isEmpty then line else prettyText indent allowance isOutermost s
      | .bytes b => return prettyBytes indent allowance isOutermost b
      | _ => return line

/-- A value on as many lines as it needs. -/
def prettyValue (v : Value) : Run String :=
  prettyWithin deepest 0 0 true [] [] v

end Tweaks.Banner
