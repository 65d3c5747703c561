import Tweaks.Decimal.Spelled
import Tweaks.Document
import Tweaks.Text.Lines
import Tweaks.Text.Quoted

/-!
# Documents in messages

How a message shows a document, and how a scalar reads as plain text.

Main results:

- `plain?_text`: a text reads as itself.
-/

namespace Tweaks.Document

open Calendar

-- Powers of whole numbers are those of the core library.
attribute [local instance (5000)] instPowNat

/-- The decimal digits of a natural number. -/
def numberText (n : Nat) : String :=
  String.ofList (Nat.toDigits 10 n)

/-- The decimal digits of an integer, behind a minus sign where it is negative. -/
def integerText (n : Int) : String :=
  (if n < 0 then "-" else "") ++ numberText n.natAbs

/-- Whether a number has too many digits to be written. -/
def isTooLong (n : Int) : Bool :=
  !(n.natAbs.log2 < 14000) && 10 ^ Decimal.mostDigits ≤ n.natAbs

/-- A number of few binary digits can be written. -/
theorem isTooLong_of_log2_lt {n : Int} (h : n.natAbs.log2 < 14000) : isTooLong n = false := by
  simp [isTooLong, h]

/-- The decimal digits of an integer, unless there are too many. -/
def integerText? (n : Int) : Option String :=
  if isTooLong n then none else some (integerText n)

/-- Texts with commas between them. -/
def commas (pieces : List String) : String :=
  Text.join ", " pieces

/-- A number of seconds as a span of days and seconds. -/
def showSpan (seconds : Int) : String :=
  let days := seconds.fdiv 86400
  "datetime.timedelta(" ++
    (if days = 0 then "" else "days=" ++ integerText days ++ ", ") ++
    "seconds=" ++ integerText (seconds.fmod 86400) ++ ")"

/-- A clock's offset from universal time, as messages show it. -/
def showOffset (offset : Int) : String :=
  if offset = 0 then "datetime.timezone.utc"
  else "datetime.timezone(" ++ showSpan offset ++ ")"

/-- A moment, as messages show it: seconds and microseconds only as far as they
are not zero. -/
def showMoment (m : Moment) : String :=
  let numbers := [m.date.year, m.date.month, m.date.day, m.hour, m.minute] ++
    (if m.microsecond ≠ 0 then [m.second, m.microsecond]
      else if m.second ≠ 0 then [m.second] else [])
  let zone := match m.offset with
    | none => []
    | some offset => ["tzinfo=" ++ showOffset offset]
  "datetime.datetime(" ++ commas (numbers.map numberText ++ zone) ++ ")"

/-- A date, as messages show it. -/
def showDate (d : Date) : String :=
  "datetime.date(" ++ commas ([d.year, d.month, d.day].map numberText) ++ ")"

mutual

/-- A document, as messages show it, unless a number in it is too long. -/
def shown? : Document → Option String
  | null => some "None"
  | bool value => some (if value then "True" else "False")
  | int value => integerText? value
  | float value => some (Decimal.text value)
  | text value => some (Text.quote value)
  | bytes value => some (Text.quoteBytes value)
  | date value => some (showDate value)
  | moment value => some (showMoment value)
  | list items => (shownItems? items).map fun pieces => "[" ++ commas pieces ++ "]"
  | mapping entries =>
    (shownEntries? entries).map fun pieces => "\x7b" ++ commas pieces ++ "\x7d"
  | set [] => some "set()"
  | set (item :: items) => do
    return "\x7b" ++ commas ((← shown? item) :: (← shownItems? items)) ++ "\x7d"
  | pair first second => do return "(" ++ commas [← shown? first, ← shown? second] ++ ")"
  | looped view _ => shown? view
  | endlessList => some "[...]"
  | endlessMapping => some "\x7b...\x7d"

/-- The items of a list or set, as messages show them. -/
def shownItems? : List Document → Option (List String)
  | [] => some []
  | item :: items => do return (← shown? item) :: (← shownItems? items)

/-- The entries of a mapping, as messages show them. -/
def shownEntries? : List (Document × Document) → Option (List String)
  | [] => some []
  | (key, value) :: entries => do
    return ((← shown? key) ++ ": " ++ (← shown? value)) :: (← shownEntries? entries)

end

/-- A document as plain text, unless a number in it is too long: scalars without quotes, all
else as messages show it. -/
def plain? : Document → Option String
  | text value => some value
  | date value => some value.text
  | moment value => some value.text
  | other => other.shown?

/-- A text reads as itself. -/
@[simp]
theorem plain?_text (value : String) : (text value).plain? = some value := rfl

end Tweaks.Document
