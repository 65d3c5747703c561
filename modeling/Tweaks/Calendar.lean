/-!
# Calendar

Dates of the Gregorian calendar, moments on them with or without an offset from
universal time, and their texts.  Days are counted from the first of January
1970.
-/

namespace Tweaks

/-- A day of the calendar, by its numbers. -/
structure Date where
  year : Nat
  month : Nat
  day : Nat
deriving DecidableEq, Repr, Inhabited

namespace Calendar

/-- Whether a year has a twenty-ninth of February. -/
def isLeap (year : Nat) : Bool :=
  year % 4 = 0 && (year % 100 ≠ 0 || year % 400 = 0)

/-- The number of days of a month. -/
def daysInMonth (year month : Nat) : Nat :=
  if month = 2 then (if isLeap year then 29 else 28)
  else if month = 4 || month = 6 || month = 9 || month = 11 then 30
  else 31

/-- The short names of the days of the week, from Monday on. -/
def weekdayNames : List String :=
  ["Mon", "Tue", "Wed", "Thu", "Fri", "Sat", "Sun"]

/-- The short names of the months. -/
def monthNames : List String :=
  ["Jan", "Feb", "Mar", "Apr", "May", "Jun", "Jul", "Aug", "Sep", "Oct", "Nov", "Dec"]

/-- The decimal digits of a number, at least `width` of them. -/
def padded (width n : Nat) : String :=
  let digits := Nat.toDigits 10 n
  String.ofList (List.replicate (width - digits.length) '0' ++ digits)

end Calendar

open Calendar

namespace Date

/-- Whether there is such a day in the years one to 9999. -/
def isValid (d : Date) : Bool :=
  1 ≤ d.year && d.year ≤ 9999 && 1 ≤ d.month && d.month ≤ 12 && 1 ≤ d.day &&
    d.day ≤ daysInMonth d.year d.month

/-- The number of days from the first of January 1970.  Years are counted from
March on, so that a leap day comes last. -/
def toDays (d : Date) : Int :=
  let year : Int := if d.month ≤ 2 then (d.year : Int) - 1 else d.year
  let month : Int := if d.month ≤ 2 then (d.month : Int) + 9 else (d.month : Int) - 3
  365 * year + year.fdiv 4 - year.fdiv 100 + year.fdiv 400 +
    (153 * month + 2).fdiv 5 + d.day - 719469

/-- The day that many days from the first of January 1970.  A cycle of four
hundred years has 146097 days. -/
def ofDays (days : Int) : Date :=
  let shifted := days + 719468
  let cycle := shifted.fdiv 146097
  let inCycle := (shifted.fmod 146097).toNat
  let yearOfCycle := (inCycle - inCycle / 1460 + inCycle / 36524 - inCycle / 146096) / 365
  let dayOfYear := inCycle - (365 * yearOfCycle + yearOfCycle / 4 - yearOfCycle / 100)
  let month := (5 * dayOfYear + 2) / 153
  let year := (cycle * 400 + yearOfCycle).toNat
  ⟨if month < 10 then year else year + 1, if month < 10 then month + 3 else month - 9,
    dayOfYear - (153 * month + 2) / 5 + 1⟩

/-- The date with dashes: four digits of the year, two of month and day. -/
def text (d : Date) : String :=
  padded 4 d.year ++ "-" ++ padded 2 d.month ++ "-" ++ padded 2 d.day

end Date

/-- A moment on a day, with the offset of its clock from universal time in
seconds where it is known. -/
structure Moment where
  date : Date
  hour : Nat
  minute : Nat
  second : Nat
  microsecond : Nat
  offset : Option Int
deriving DecidableEq, Repr, Inhabited

namespace Moment

/-- Whether the clock can show such a time, on a day that exists and within a day
of universal time. -/
def isValid (m : Moment) : Bool :=
  m.date.isValid && m.hour < 24 && m.minute < 60 && m.second < 60 &&
    match m.offset with
    | none => true
    | some offset => -86400 < offset && offset < 86400

/-- The number of microseconds from 1970 on, by the moment's own clock. -/
def localMicroseconds (m : Moment) : Int :=
  (m.date.toDays * 86400 + m.hour * 3600 + m.minute * 60 + m.second) * 1000000 + m.microsecond

/-- Whether two moments are the same: both by universal time, or both by a clock
whose offset is not known. -/
def same (m n : Moment) : Bool :=
  match m.offset, n.offset with
  | none, none => m.localMicroseconds = n.localMicroseconds
  | some o, some p =>
    m.localMicroseconds - o * 1000000 = n.localMicroseconds - p * 1000000
  | _, _ => false

/-- The moment that many seconds from 1970 on, by universal time. -/
def ofSeconds (seconds : Int) : Moment :=
  let inDay := (seconds.fmod 86400).toNat
  ⟨Date.ofDays (seconds.fdiv 86400), inDay / 3600, inDay / 60 % 60, inDay % 60, 0, some 0⟩

/-- An offset with hours, minutes and the separator between them. -/
def offsetText (separator : String) (offset : Int) : String :=
  let minutes := offset.natAbs / 60
  (if offset < 0 then "-" else "+") ++ padded 2 (minutes / 60) ++ separator ++
    padded 2 (minutes % 60)

/-- The moment with dashes and colons, microseconds only where there are some. -/
def text (m : Moment) : String :=
  m.date.text ++ " " ++ padded 2 m.hour ++ ":" ++ padded 2 m.minute ++ ":" ++
    padded 2 m.second ++ (if m.microsecond = 0 then "" else "." ++ padded 6 m.microsecond) ++
    (match m.offset with
      | none => ""
      | some offset => offsetText ":" offset)

/-- The moment as mail headers write it. -/
def mailText (m : Moment) : String :=
  let weekday := (m.date.toDays + 3).fmod 7
  weekdayNames.getD weekday.toNat "" ++ ", " ++ padded 2 m.date.day ++ " " ++
    monthNames.getD (m.date.month - 1) "" ++ " " ++ padded 4 m.date.year ++ " " ++
    padded 2 m.hour ++ ":" ++ padded 2 m.minute ++ ":" ++ padded 2 m.second ++ " " ++
    offsetText "" (m.offset.getD 0)

end Moment

end Tweaks
