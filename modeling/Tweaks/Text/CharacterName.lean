import Tweaks.Text.CharacterName.Alphabets
import Tweaks.Text.CharacterName.Ancient
import Tweaks.Text.CharacterName.East
import Tweaks.Text.CharacterName.Pictures
import Tweaks.Text.CharacterName.Signs
import Tweaks.Text.CharacterName.Syllables
import Tweaks.Text.Lines
import Tweaks.Text.Markup
import Tweaks.Text.Quoted

/-!
# Names of characters

The names that Unicode gives to its characters: most of them stand in tables, and those of
ideographs and of the syllables of Hangul go by rules.
-/

namespace Tweaks.Text

/-! ## Words of names -/

/-- The words for which single letters stand. -/
def briefWords : Array String := #[
  "LETTER", "WITH", "CAPITAL", "SMALL", "FORM", "ARROW", "SIGN", "RIGHT", "ABOVE", "ISOLATED",
  "RIGHTWARDS", "DOUBLE", "BELOW", "FINAL"]

/-- The words for which two letters stand. -/
def commonWords : Array String := #[
  "LEFTWARDS", "VERTICAL", "INITIAL", "LEFT", "TRIANGLE-HEADED", "THREE", "STROKE", "SYMBOL",
  "HORIZONTAL", "AND", "BLACK", "WHITE", "MIDDLE", "HUNDRED", "DOWNWARDS", "THOUSAND", "MARK",
  "BRACKET", "CIRCUMFLEX", "TRIANGLE", "WEST-CREE", "GREATER-THAN", "HEAVY", "DIAERESIS",
  "SQUARE", "ARROWHEAD", "EIGHT", "TIMES", "CIRCLE", "FOUR", "HOOK", "UPWARDS", "REVERSED",
  "FIVE", "SEVEN", "TWO", "ONE", "LESS-THAN", "YPOGEGRAMMENI", "DOT", "INVERTED", "POINTING",
  "MEDIUM", "PERISPOMENI", "PUNCTUATION", "MEDIAL", "PARENTHESIS", "VOWEL", "EQUAL", "INDEX",
  "LIGHT", "TURNED", "MEEM", "PLUS", "TILDE", "MAKSURA", "DIGIT", "LOWER", "PROSGEGRAMMENI",
  "HALF", "ROTATED", "DOWN", "ORNAMENT", "NINE", "ACUTE", "ANUSVARA", "VOCALIC", "FACE",
  "RETROFLEX", "SINGLE", "HARPOON", "DESCENDER", "RIGHT-POINTING", "ASTERISK", "UPPER", "CIRCLED",
  "DOTS", "CANDRABINDU", "COMBINING", "DIAGONAL", "MACRON", "DEGREES", "NUMBER", "OVER",
  "OPERATOR", "THUMB", "DASIA", "ALEF", "PSILI", "CENTRE", "RING", "LARGE", "LITTLE",
  "EXCLAMATION", "GRAVE", "BARB", "LEFT-POINTING", "SIX", "EQUILATERAL", "LIGATURE", "QUOTATION",
  "ZERO", "BAR", "DIAMOND", "VARIA", "COMMA", "HAND-FIST", "MOVEMENT-FLOORPLANE", "OPEN", "JEEM",
  "ANTICLOCKWISE", "TRIPLE", "BLOCK", "LONG", "TONE", "CROSSING", "MOVEMENT-WALLPLANE", "SQUARED",
  "VISARGA", "BREVE", "SANS-SERIF", "MODIFIER", "POINTED", "HIGH", "ABBREVIATION", "QUESTION",
  "SEVENTY", "TRIANGULAR", "ANGLE", "LATIN", "STOP", "TWENTY", "VIRAMA", "SHORT", "QUARTER",
  "SEPARATOR", "INTERSECTION", "YEH", "ACCENT", "ALTERNATE", "CONSONANT", "ALTERNATING", "DOTTED",
  "NINETY", "HITTING", "NORTH", "LINE", "UNDERBAR", "HAND-CIRCLE", "CROSS", "CEDILLA", "PALATAL",
  "C-SIMPLIFIED", "CARON", "CLOSED", "EAST", "EQUALS", "STRAIGHT", "SUPERSET", "OXIA", "DIGRAPH",
  "GLOTTAL", "UPSILON", "YENISEI", "HAND-HINGE", "IDEOGRAPHIC", "SOUTH", "STAR", "BOTTOM",
  "CORNER", "LOW", "EPSILON", "DOWN-POINTING", "MULTIPLICATION", "TAIL", "HAH", "CONJOINED",
  "KHAH", "WEST", "OMEGA", "UP-POINTING", "GUNU", "FINGERS", "SECTION", "SOLIDUS", "ORKHON",
  "FULL", "EQUIVALENT", "DOUBLE-STRUCK", "OVERLAY", "HAMZA", "KNIGHT", "ARCHAION", "FRACTION",
  "INTEGRAL", "SUPERSCRIPT", "TEN", "ARABIC", "EIGHTH", "NEUTRAL", "SLANTED", "TO", "VARIANT",
  "COPTIC", "RAISED", "SUBSET", "SYLLABLE", "TORTOISE", "ALPHA", "FIFTY", "REVERSE", "NGA",
  "CHESS", "SHA", "COLON", "OF", "SCRIPT", "ARABIC-INDIC", "DANDA", "DIALYTIKA", "MATHEMATICAL",
  "TTHA", "ARCHAIC", "AVAGRAHA", "IOTIFIED", "CRYPTOGRAMMIC", "DAGESH", "DASH", "TENU",
  "HAND-ANGLE", "HEART", "CHA", "DDHA", "INSULAR", "NYA", "OMICRON", "THIRTY", "CLOCKWISE", "KHA",
  "NEGATIVE", "NOON", "QUADRANT", "QUARTERS", "MAHAAPRAANA", "CROSSED-TAIL", "TEARDROP-SPOKED",
  "BETWEEN", "FORWARD", "SIMALUNGUN", "SMILING", "TWO-HEADED", "THA", "CURLY", "CYRILLIC",
  "DIAMONDS", "GREEK", "SIGMA", "NOT", "SEMICOLON", "TELEPHONE", "OLD", "NUKTA",
  "ROTATION-FLOORPLANE", "THETA", "INSIDE", "ALPAPRAANA", "HORN", "TACK", "MULTIPLE", "PRECEDES",
  "SHADOWED", "SUCCEEDS", "SHELL", "EIGHTHS", "OBLIQUE", "PHA", "QUADRUPLE", "ROTATION-WALLPLANE",
  "SPOKED", "UP", "NOTEHEAD", "FROM", "HAND", "IOTA", "KATAKANA-HIRAGANA", "DOTLESS", "GAMMA",
  "SHAFT", "SPACE", "THROUGH", "APOSTROPHE", "CHARACTERS", "HEARTS", "INDEPENDENT", "BENT",
  "LEFT-STEM", "SHIN", "TTA", "DDA", "MOUTH", "BOLD", "ALMOST", "ARROWS", "DHA", "HINGED",
  "PERSON", "SAMEKH", "CIRCLES", "CROSSED", "KATAKANA", "LOGICAL", "LOZENGE"]

/-! ## Other names -/

/-- Names of characters without a shape, short names, and names that mend others. -/
def otherNames : List (Nat × String) := [
  (0x0, "NULL;NUL"), (0x1, "START OF HEADING;SOH"), (0x2, "START OF TEXT;STX"),
  (0x3, "END OF TEXT;ETX"), (0x4, "END OF TRANSMISSION;EOT"), (0x5, "ENQUIRY;ENQ"),
  (0x6, "ACKNOWLEDGE;ACK"), (0x7, "ALERT;BEL"), (0x8, "BACKSPACE;BS"),
  (0x9, "CHARACTER TABULATION;HORIZONTAL TABULATION;HT;TAB"),
  (0xa, "LINE FEED;NEW LINE;END OF LINE;LF;NL;EOL"),
  (0xb, "LINE TABULATION;VERTICAL TABULATION;VT"), (0xc, "FORM FEED;FF"),
  (0xd, "CARRIAGE RETURN;CR"), (0xe, "SHIFT OUT;LOCKING-SHIFT ONE;SO"),
  (0xf, "SHIFT IN;LOCKING-SHIFT ZERO;SI"), (0x10, "DATA LINK ESCAPE;DLE"),
  (0x11, "DEVICE CONTROL ONE;DC1"), (0x12, "DEVICE CONTROL TWO;DC2"),
  (0x13, "DEVICE CONTROL THREE;DC3"), (0x14, "DEVICE CONTROL FOUR;DC4"),
  (0x15, "NEGATIVE ACKNOWLEDGE;NAK"), (0x16, "SYNCHRONOUS IDLE;SYN"),
  (0x17, "END OF TRANSMISSION BLOCK;ETB"), (0x18, "CANCEL;CAN"), (0x19, "END OF MEDIUM;EOM"),
  (0x1a, "SUBSTITUTE;SUB"), (0x1b, "ESCAPE;ESC"),
  (0x1c, "INFORMATION SEPARATOR FOUR;FILE SEPARATOR;FS"),
  (0x1d, "INFORMATION SEPARATOR THREE;GROUP SEPARATOR;GS"),
  (0x1e, "INFORMATION SEPARATOR TWO;RECORD SEPARATOR;RS"),
  (0x1f, "INFORMATION SEPARATOR ONE;UNIT SEPARATOR;US"), (0x20, "SP"), (0x7f, "DELETE;DEL"),
  (0x80, "PADDING CHARACTER;PAD"), (0x81, "HIGH OCTET PRESET;HOP"),
  (0x82, "BREAK PERMITTED HERE;BPH"), (0x83, "NO BREAK HERE;NBH"), (0x84, "INDEX;IND"),
  (0x85, "NEXT LINE;NEL"), (0x86, "START OF SELECTED AREA;SSA"),
  (0x87, "END OF SELECTED AREA;ESA"),
  (0x88, "CHARACTER TABULATION SET;HORIZONTAL TABULATION SET;HTS"),
  (0x89, "CHARACTER TABULATION WITH JUSTIFICATION;HORIZONTAL TABULATION WITH JUSTIFICATION;HTJ"),
  (0x8a, "LINE TABULATION SET;VERTICAL TABULATION SET;VTS"),
  (0x8b, "PARTIAL LINE FORWARD;PARTIAL LINE DOWN;PLD"),
  (0x8c, "PARTIAL LINE BACKWARD;PARTIAL LINE UP;PLU"),
  (0x8d, "REVERSE LINE FEED;REVERSE INDEX;RI"), (0x8e, "SINGLE SHIFT TWO;SINGLE-SHIFT-2;SS2"),
  (0x8f, "SINGLE SHIFT THREE;SINGLE-SHIFT-3;SS3"), (0x90, "DEVICE CONTROL STRING;DCS"),
  (0x91, "PRIVATE USE ONE;PRIVATE USE-1;PU1"), (0x92, "PRIVATE USE TWO;PRIVATE USE-2;PU2"),
  (0x93, "SET TRANSMIT STATE;STS"), (0x94, "CANCEL CHARACTER;CCH"), (0x95, "MESSAGE WAITING;MW"),
  (0x96, "START OF GUARDED AREA;START OF PROTECTED AREA;SPA"),
  (0x97, "END OF GUARDED AREA;END OF PROTECTED AREA;EPA"), (0x98, "START OF STRING;SOS"),
  (0x99, "SINGLE GRAPHIC CHARACTER INTRODUCER;SGC"), (0x9a, "SINGLE CHARACTER INTRODUCER;SCI"),
  (0x9b, "CONTROL SEQUENCE INTRODUCER;CSI"), (0x9c, "STRING TERMINATOR;ST"),
  (0x9d, "OPERATING SYSTEM COMMAND;OSC"), (0x9e, "PRIVACY MESSAGE;PM"),
  (0x9f, "APPLICATION PROGRAM COMMAND;APC"), (0xa0, "NBSP"), (0xad, "SHY"),
  (0x1a2, "LATIN CAPITAL LETTER GHA"), (0x1a3, "LATIN SMALL LETTER GHA"), (0x34f, "CGJ"),
  (0x61c, "ALM"), (0x709, "SYRIAC SUBLINEAR COLON SKEWED LEFT"), (0xcde, "KANNADA LETTER LLLA"),
  (0xe9d, "LAO LETTER FO FON"), (0xe9f, "LAO LETTER FO FAY"), (0xea3, "LAO LETTER RO"),
  (0xea5, "LAO LETTER LO"), (0xfd0, "TIBETAN MARK BKA- SHOG GI MGO RGYAN"),
  (0x11ec, "HANGUL JONGSEONG YESIEUNG-KIYEOK"), (0x11ed, "HANGUL JONGSEONG YESIEUNG-SSANGKIYEOK"),
  (0x11ee, "HANGUL JONGSEONG SSANGYESIEUNG"), (0x11ef, "HANGUL JONGSEONG YESIEUNG-KHIEUKH"),
  (0x180b, "FVS1"), (0x180c, "FVS2"), (0x180d, "FVS3"), (0x180e, "MVS"), (0x180f, "FVS4"),
  (0x200b, "ZWSP"), (0x200c, "ZWNJ"), (0x200d, "ZWJ"), (0x200e, "LRM"), (0x200f, "RLM"),
  (0x202a, "LRE"), (0x202b, "RLE"), (0x202c, "PDF"), (0x202d, "LRO"), (0x202e, "RLO"),
  (0x202f, "NNBSP"), (0x205f, "MMSP"), (0x2060, "WJ"), (0x2066, "LRI"), (0x2067, "RLI"),
  (0x2068, "FSI"), (0x2069, "PDI"), (0x2118, "WEIERSTRASS ELLIPTIC FUNCTION"),
  (0x2448, "MICR ON US SYMBOL"), (0x2449, "MICR DASH SYMBOL"),
  (0x2b7a, "LEFTWARDS TRIANGLE-HEADED ARROW WITH DOUBLE VERTICAL STROKE"),
  (0x2b7c, "RIGHTWARDS TRIANGLE-HEADED ARROW WITH DOUBLE VERTICAL STROKE"),
  (0xa015, "YI SYLLABLE ITERATION MARK"), (0xaa6e, "MYANMAR LETTER KHAMTI LLA"),
  (0xfe18, "PRESENTATION FORM FOR VERTICAL RIGHT WHITE LENTICULAR BRACKET"),
  (0xfeff, "BYTE ORDER MARK;BOM;ZWNBSP"), (0x122d4, "CUNEIFORM SIGN NU11 TENU"),
  (0x122d5, "CUNEIFORM SIGN NU11 OVER NU11 BUR OVER BUR"),
  (0x16e56, "MEDEFAIDRIN CAPITAL LETTER H"), (0x16e57, "MEDEFAIDRIN CAPITAL LETTER NG"),
  (0x16e76, "MEDEFAIDRIN SMALL LETTER H"), (0x16e77, "MEDEFAIDRIN SMALL LETTER NG"),
  (0x1b001, "HENTAIGANA LETTER E-1"),
  (0x1d0c5, "BYZANTINE MUSICAL SYMBOL FTHORA SKLIRON CHROMA VASIS")]

/-! ## Tables -/

/-- Runs of names, each with the number of its first character. -/
abbrev NameTable := List (Nat × List String)

/-- All tables of names. -/
def nameTables : List NameTable :=
  [alphabetNames, syllableNames, signNames, eastNames, ancientNames, glyphNames, pictureNames,
    tagNames]

/-- The marks that say how many words a name has in common with the one before it: one for the
first of them, and so on. -/
def sharingMarks : List Char :=
  "!#$%&()*+,:<=>?@".toList

/-- The words of a name in a table, in which small letters stand for common words, behind the
start of a word that was read, backwards. -/
def tableWords (read : List Char) : List Char → List String
  | [] => finished
  | [c] => if c = ' ' then finished
    else if c.isLower then finished ++ [briefWord c] else [String.ofList (c :: read).reverse]
  | c :: d :: s =>
    if c = ' ' then finished ++ tableWords [] (d :: s)
    else if c.isLower then
      if c ≤ 'n' then finished ++ briefWord c :: tableWords [] (d :: s)
      else finished ++ commonWord c d :: tableWords [] s
    else tableWords (c :: read) (d :: s)
where
  /-- The word that was read, if there is one. -/
  finished : List String := if read.isEmpty then [] else [String.ofList read.reverse]
  /-- The word for a single letter. -/
  briefWord (c : Char) : String := briefWords.getD (c.toNat - 97) ""
  /-- The word for two letters. -/
  commonWord (c d : Char) : String := commonWords.getD (26 * (c.toNat - 111) + (d.toNat - 97)) ""

/-- The words of a name in a table, behind a name with the given words. -/
def nameWords (before : List String) (entry : List Char) : List String :=
  match entry with
  | [] => before
  | c :: s =>
    match sharingMarks.idxOf? c with
    | some i => before.take (i + 1) ++ tableWords [] s
    | none => tableWords [] entry

/-- The names of a run in a table. -/
def runEntries (names : List String) : List (List Char) :=
  splitWhere (· = ';') (String.join names).toList

/-- The place of the name with the given words among names, counted from a number, behind a name
with other words. -/
def placeOfName? (name : List String) (place : Nat) (before : List String) :
    List (List Char) → Option Nat
  | [] => none
  | entry :: rest =>
    let words := nameWords before entry
    if !entry.isEmpty && words = name then some place
    else placeOfName? name (place + 1) words rest

/-- The words of the name at a place among names, if there is one, behind a name with other
words. -/
def nameAt? (before : List String) : (place : Nat) → List (List Char) → Option (List String)
  | _, [] => none
  | 0, entry :: _ => if entry.isEmpty then none else some (nameWords before entry)
  | place + 1, entry :: rest => nameAt? (nameWords before entry) place rest

/-! ## Names by rules -/

/-- The ideographs, from first to last. -/
def ideographs : List (Nat × Nat) := [
  (0x3400, 0x4dbf), (0x4e00, 0x9fff), (0x20000, 0x2a6df), (0x2a700, 0x2b738),
  (0x2b740, 0x2b81d), (0x2b820, 0x2cea1), (0x2ceb0, 0x2ebe0), (0x30000, 0x3134a)]

/-- What the names of ideographs start with. -/
def ideographStart : String := "CJK UNIFIED IDEOGRAPH-"

/-- Whether a number is that of an ideograph. -/
def isIdeograph (n : Nat) : Bool :=
  ideographs.any fun (first, last) => first ≤ n && n ≤ last

/-- Other characters that are named by their numbers: what the names start with, and the
characters from first to last. -/
def numberedNames : List (String × Nat × Nat) := [
  ("CJK COMPATIBILITY IDEOGRAPH-", 0xf900, 0xfa6d),
  ("CJK COMPATIBILITY IDEOGRAPH-", 0xfa70, 0xfad9),
  ("CJK COMPATIBILITY IDEOGRAPH-", 0x2f800, 0x2fa1d),
  ("KHITAN SMALL SCRIPT CHARACTER-", 0x18b00, 0x18cd5),
  ("NUSHU CHARACTER-", 0x1b170, 0x1b2fb)]

/-- A number in large hexadecimal digits, at least four of them. -/
def largeHex (n : Nat) : String :=
  String.ofList ((hexDigits 4 n).map Char.toUpper)

/-- The number that large hexadecimal digits spell. -/
def largeHexValue? (digits : List Char) : Option Nat :=
  if digits.all fun c => c.isDigit || ('A' ≤ c && c ≤ 'F') then some (hexValue digits) else none

/-- The number that stands behind the start of a name, if it belongs to the characters from one
to another. -/
def numberBehind? (name : List Char) (start : String) (first last : Nat) : Option Nat := do
  let n ← largeHexValue? (← dropExpected? start.toList name)
  if first ≤ n && n ≤ last && largeHex n = String.ofList (name.drop start.length) then some n
  else none

/-- What the names of syllables of Hangul start with. -/
def syllableStart : String := "HANGUL SYLLABLE "

/-- The names of the sounds with which syllables start. -/
def leadNames : List String :=
  ["G", "GG", "N", "D", "DD", "R", "M", "B", "BB", "S", "SS", "", "J", "JJ", "C", "K", "T", "P",
    "H"]

/-- The names of the vowels of syllables. -/
def vowelNames : List String :=
  ["A", "AE", "YA", "YAE", "EO", "E", "YEO", "YE", "O", "WA", "WAE", "OE", "YO", "U", "WEO", "WE",
    "WI", "YU", "EU", "YI", "I"]

/-- The names of the sounds with which syllables end. -/
def tailNames : List String :=
  ["", "G", "GG", "GS", "N", "NJ", "NH", "D", "L", "LG", "LM", "LB", "LS", "LT", "LP", "LH", "M",
    "B", "BS", "S", "SS", "NG", "J", "C", "K", "T", "P", "H"]

/-- The place of the longest name with which a text starts, and the rest. -/
def longestName? (names : List String) (s : List Char) : Option (Nat × List Char) :=
  names.zipIdx.foldl (fun best (name, i) =>
    match dropExpected? name.toList s with
    | none => best
    | some rest =>
      match best with
      | some (_, other) => if rest.length < other.length then some (i, rest) else best
      | none => some (i, rest)) none

/-- The number of the syllable that the names of its sounds spell. -/
def syllableOf? (s : List Char) : Option Nat := do
  let (lead, s) ← longestName? leadNames s
  let (vowel, s) ← longestName? vowelNames s
  let (tail, s) ← longestName? tailNames s
  if s.isEmpty then some (0xac00 + (lead * 21 + vowel) * 28 + tail) else none

/-- The names of the sounds of a syllable. -/
def syllableName (n : Nat) : String :=
  let i := n - 0xac00
  leadNames.getD (i / 588) "" ++ vowelNames.getD (i / 28 % 21) "" ++ tailNames.getD (i % 28) ""

/-- The characters that choose between forms of others by a number. -/
def selectorOf? (name : List Char) : Option Nat :=
  (List.range 256).findSome? fun i =>
    if name = ("VS" ++ toString (i + 1)).toList then
      some (if i < 16 then 0xfe00 + i else 0xe0100 + (i - 16))
    else none

/-! ## Looking up -/

/-- The number of the character with a name in a table. -/
def tabled? (name : List Char) : Option Nat :=
  let words := (splitWhere (· = ' ') name).map String.ofList
  nameTables.findSome? fun table => table.findSome? fun (first, names) =>
    placeOfName? words first [] (runEntries names)

/-- The number of the character with another name. -/
def otherwiseNamed? (name : List Char) : Option Nat :=
  otherNames.findSome? fun (n, names) =>
    if (splitWhere (· = ';') names.toList).contains name then some n else none

/-- The character with a name, which may be in small letters unless it goes by the oldest
rules. -/
def named? (name : List Char) : Option Char :=
  if name.isEmpty then none
  else
    let found := match dropExpected? syllableStart.toList name with
      | some sounds => syllableOf? sounds
      | none =>
        match dropExpected? ideographStart.toList name with
        | some digits =>
          if digits.length = 4 || digits.length = 5 then
            (largeHexValue? digits).filter isIdeograph
          else none
        | none =>
          let name := name.map Char.toUpper
          (otherwiseNamed? name).or ((selectorOf? name).or
            ((numberedNames.findSome? fun (start, first, last) =>
              numberBehind? name start first last).or (tabled? name)))
    found.map Char.ofNat

/-- The name of the character with a number, if it has one. -/
def nameOf? (n : Nat) : Option String :=
  if 0xac00 ≤ n && n < 0xd7a4 then some (syllableStart ++ syllableName n)
  else if isIdeograph n then some (ideographStart ++ largeHex n)
  else
    match numberedNames.find? fun (_, first, last) => first ≤ n && n ≤ last with
    | some (start, _, _) => some (start ++ largeHex n)
    | none => do
      let (first, names) ← (nameTables.flatMap fun table =>
        table.filter fun (first, _) => first ≤ n).getLast?
      return join " " (← nameAt? [] (n - first) (runEntries names))

end Tweaks.Text
