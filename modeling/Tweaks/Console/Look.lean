import Tweaks.Decimal.Spelled
import Tweaks.Text.Case
import Tweaks.Text.Letter
import Tweaks.Text.Lines
import Tweaks.Text.Markup
import Tweaks.Text.Split

/-!
# How a text looks

A text for the terminal may have attributes, a colour, a colour behind it, and a place that it
leads to.  What says so is a list of words.  Two lists that say the same have the same normal
form.
-/

namespace Tweaks.Console

/-! ## Colours -/

/-- The names of colours, each with its shades.  The shade zero has no number behind its
name. -/
def shadedColours : List (String × String) := [
  ("black", "0"), ("red", "013"), ("green", "0134"), ("yellow", "01234"), ("blue", "013"),
  ("magenta", "0123"), ("cyan", "0123"), ("white", "0"), ("bright_black", "0"),
  ("bright_red", "0"), ("bright_green", "0"), ("bright_yellow", "0"), ("bright_blue", "0"),
  ("bright_magenta", "0"), ("bright_cyan", "0"), ("bright_white", "0"), ("navy_blue", "0"),
  ("dark_blue", "0"), ("dark_green", "0"), ("deep_sky_blue", "1234"), ("dodger_blue", "123"),
  ("spring_green", "1234"), ("turquoise", "24"), ("dark_cyan", "0"), ("light_sea_green", "0"),
  ("dark_turquoise", "0"), ("medium_spring_green", "0"), ("dark_red", "0"),
  ("deep_pink", "1234"), ("purple", "034"), ("blue_violet", "0"), ("orange", "134"),
  ("medium_purple", "01234"), ("slate_blue", "13"), ("royal_blue", "1"), ("chartreuse", "1234"),
  ("dark_sea_green", "01234"), ("pale_turquoise", "14"), ("steel_blue", "013"),
  ("cornflower_blue", "0"), ("cadet_blue", "0"), ("sky_blue", "123"), ("pale_green", "13"),
  ("sea_green", "123"), ("aquamarine", "13"), ("medium_turquoise", "0"),
  ("dark_slate_gray", "123"), ("dark_magenta", "0"), ("dark_violet", "0"), ("light_pink", "134"),
  ("plum", "1234"), ("wheat", "14"), ("light_slate_grey", "0"), ("light_slate_gray", "0"),
  ("light_slate_blue", "0"), ("dark_olive_green", "123"), ("light_sky_blue", "13"),
  ("light_green", "0"), ("medium_violet_red", "0"), ("dark_orange", "03"), ("indian_red", "01"),
  ("hot_pink", "023"), ("medium_orchid", "013"), ("dark_goldenrod", "0"), ("light_salmon", "13"),
  ("rosy_brown", "0"), ("gold", "13"), ("dark_khaki", "0"), ("navajo_white", "13"),
  ("light_steel_blue", "013"), ("light_cyan", "13"), ("green_yellow", "0"), ("orchid", "012"),
  ("pink", "13"), ("violet", "0"), ("light_goldenrod", "123"), ("tan", "0"),
  ("misty_rose", "13"), ("thistle", "13"), ("khaki", "13"), ("light_yellow", "3"),
  ("honeydew", "2"), ("orange_red", "1"), ("salmon", "1"), ("light_coral", "0"),
  ("pale_violet_red", "1"), ("sandy_brown", "0"), ("cornsilk", "1")]

/-- The shades of grey. -/
def greyShades : List Nat :=
  [0, 3, 7, 11, 15, 19, 23, 27, 30, 35, 37, 39, 42, 46, 50, 53, 54, 58, 62, 63, 66, 69, 70, 74,
    78, 82, 84, 85, 89, 93, 100]

/-- The names of all colours. -/
def colourNames : List (List Char) :=
  (shadedColours.flatMap fun (name, shades) => shades.toList.map fun shade =>
    if shade = '0' then name.toList else name.toList ++ [shade]) ++
  greyShades.flatMap fun shade =>
    ["grey", "gray"].map fun name => name.toList ++ (toString shade).toList

/-- Why words do not say how a text looks. -/
inductive LookError where
  /-- A word is not known here. -/
  | unknown
  /-- A part of a colour is no number. -/
  | part
deriving DecidableEq, Repr

/-- What stands behind a word and a bracket that follows it, up to the bracket at the end. -/
def bracketed? (word s : List Char) : Option (List Char) :=
  match Text.dropExpected? (word ++ ['(']) s with
  | some s => if s.getLast? = some ')' then some s.dropLast else none
  | none => none

/-- Whether digits are the number of a colour. -/
def isColourNumber (digits : List Char) : Bool :=
  digits.all Char.isDigit && 1 ≤ digits.length && digits.length ≤ 3 &&
    Text.digitsValue digits ≤ 255

/-- Whether digits can be read as a number. -/
def isReadable (digits : List Char) : Bool :=
  1 ≤ digits.length && digits.length ≤ Decimal.mostDigits

/-- Checks the parts of a colour, digits with commas between them. -/
def checkParts (s : List Char) : Except LookError Unit :=
  let parts := Text.splitWhere (· = ',') s
  if s.isEmpty || !s.all (fun c => c = ',' || Text.isDecimalDigit c) then .error .unknown
  else if parts.length ≠ 3 then .error .unknown
  else if !parts.all isReadable then .error .part
  else if parts.all fun part => Text.digitsValue part ≤ 255 then .ok ()
  else .error .unknown

/-- The name of a colour, in small letters. -/
def colour (s : List Char) : Except LookError (List Char) :=
  let s := Text.small s
  if s = "default".toList || colourNames.contains s then .ok s
  else
    match s with
    | '#' :: digits =>
      if digits.length = 6 && digits.all (fun c => (Text.hexDigit? c).isSome) then .ok s
      else .error .unknown
    | _ =>
      match bracketed? "color".toList s with
      | some digits => if isColourNumber digits then .ok s else .error .unknown
      | none =>
        match bracketed? "rgb".toList s with
        | some parts => (checkParts parts).map fun _ => s
        | none => .error .unknown

/-! ## Looks -/

/-- The attributes of a text in their order, each with another name if it has one. -/
def attributes : List (String × Option String) := [
  ("bold", some "b"), ("dim", some "d"), ("italic", some "i"), ("underline", some "u"),
  ("blink", none), ("blink2", none), ("reverse", some "r"), ("conceal", some "c"),
  ("strike", some "s"), ("underline2", some "uu"), ("frame", none), ("encircle", none),
  ("overline", some "o")]

/-- The attribute that a word names. -/
def attribute? (word : List Char) : Option String :=
  (attributes.find? fun (name, short) =>
    word = name.toList || short.any (·.toList = word)).map Prod.fst

/-- How a text looks. -/
structure Look where
  /-- The attributes that are asked for, and those that are not wanted, the last one first. -/
  wanted : List (String × Bool)
  /-- The colour of the text. -/
  colour : Option (List Char)
  /-- The colour behind the text. -/
  ground : Option (List Char)
  /-- The place that the text leads to. -/
  link : Option (List Char)
deriving DecidableEq, Repr

namespace Look

/-- The usual look. -/
def usual : Look := ⟨[], none, none, none⟩

/-- Reads words that say how a text looks. -/
def read (look : Look) : List (List Char) → Except LookError Look
  | [] => .ok look
  | word :: rest =>
    let small := Text.small word
    if small = "on".toList then
      match rest with
      | [] => .error .unknown
      | word :: rest => do read { look with ground := some (← Console.colour word) } rest
    else if small = "not".toList then
      match rest with
      | [] => .error .unknown
      | word :: rest =>
        match attribute? word with
        | some name => read { look with wanted := (name, false) :: look.wanted } rest
        | none => .error .unknown
    else if small = "link".toList then
      match rest with
      | [] => .error .unknown
      | word :: rest => read { look with link := some word } rest
    else
      match attribute? small with
      | some name => read { look with wanted := (name, true) :: look.wanted } rest
      | none => do read { look with colour := some (← Console.colour small) } rest

/-- The words that say how a text looks, in their order. -/
def words (look : Look) : List (List Char) :=
  let wanted := attributes.flatMap fun (name, _) =>
    match look.wanted.lookup name with
    | some true => [name.toList]
    | some false => ["not".toList, name.toList]
    | none => []
  wanted ++ look.colour.toList ++
    (look.ground.map fun c => ["on".toList, c]).getD [] ++
    (look.link.map fun l => ["link".toList, l]).getD []

/-- The normal form of a look. -/
def text (look : Look) : List Char :=
  match look.words with
  | [] => "none".toList
  | words => Text.joinWith [' '] words

/-- The look that a text asks for. -/
def ofText (s : List Char) : Except LookError Look :=
  if Text.stripChars s = "none".toList then .ok usual else read usual (Text.words s)

/-- Whether a part of a colour in a text is no number. -/
def isFaulty (s : List Char) : Bool :=
  match ofText s with
  | .error .part => true
  | _ => false

/-- The normal form of a text that says how another one looks.  What is not known is a name,
in small letters. -/
def normal (s : List Char) : Except LookError (List Char) :=
  match ofText s with
  | .ok look => .ok look.text
  | .error .unknown => .ok (Text.small (Text.stripChars s))
  | .error .part => .error .part

end Look

end Tweaks.Console
