import Tweaks.Text.Encoding.Domain
import Tweaks.Text.Encoding.Escaped
import Tweaks.Text.Encoding.Page
import Tweaks.Text.Encoding.Shifted
import Tweaks.Text.Encoding.Switched
import Tweaks.Text.Encoding.Taiwan

/-!
# Encodings by their names

All encodings with their names.  Names are compared in small letters, with low lines for the
signs between their parts.
-/

namespace Tweaks.Text

/-! ## Names -/

/-- The letters and digits of ASCII in a name, small, with low lines between its parts. -/
def encodingParts (isBehind isApart : Bool) : List Char → List Char
  | [] => []
  | c :: s =>
    if c.isAlphanum || c = '.' then
      (if isBehind && isApart then ['_', c.toLower] else [c.toLower]) ++ encodingParts true false s
    else encodingParts isBehind true s

/-- The name of an encoding in small letters, with low lines between its parts. -/
def encodingName (name : List Char) : List Char :=
  encodingParts false false name

/-! ## Encodings -/

/-- The encoding that has one octet for each of the first characters and no others. -/
def Encoding.firsts (count : Nat) : Encoding := .paged ⟨count, ""⟩

/-- The encoding that refuses all texts. -/
def Encoding.undefined : Encoding where
  spell _ _ := .error .refused
  read _ _ := .error .refused

/-- Encodings of all characters, and some that go by rules. -/
def generalEncodings : List (List String × Encoding) := [
  (["utf_8", "u8", "utf", "utf8", "utf8_ucs2", "utf8_ucs4", "cp65001"], .units8 false),
  (["utf_8_sig"], .units8 true),
  (["utf_16", "u16", "utf16"], .signed 2 .units16),
  (["utf_16_le", "unicodelittleunmarked", "utf_16le"], .units16 false),
  (["utf_16_be", "unicodebigunmarked", "utf_16be"], .units16 true),
  (["utf_32", "u32", "utf32"], .signed 4 .units32),
  (["utf_32_le", "utf_32le"], .units32 false),
  (["utf_32_be", "utf_32be"], .units32 true),
  (["utf_7", "u7", "utf7", "unicode_1_1_utf_7"], .shifted),
  (["ascii", "646", "ansi_x3.4_1968", "ansi_x3_4_1968", "ansi_x3.4_1986", "cp367", "csascii",
    "ibm367", "iso646_us", "iso_646.irv_1991", "iso_ir_6", "us", "us_ascii"], .firsts 128),
  (["latin_1", "8859", "cp819", "csisolatin1", "ibm819", "iso8859", "iso8859_1", "iso_8859_1",
    "iso_8859_1_1987", "iso_ir_100", "l1", "latin", "latin1"], .firsts 256),
  (["charmap"], .firsts 256),
  (["unicode_escape"], .escaped),
  (["raw_unicode_escape"], .lightlyEscaped),
  (["punycode"], .punycode),
  (["idna"], .domain),
  (["undefined"], .undefined)]

/-- Encodings that have two octets for most characters. -/
def cellEncodings : List (List String × Encoding) := [
  (["gb2312", "chinese", "csiso58gb231280", "euc_cn", "euccn", "eucgb2312_cn", "gb2312_1980",
    "gb2312_80", "iso_ir_58", "x_mac_simp_chinese"], .china),
  (["gbk", "936", "cp936", "ms936"], .chinaLarge),
  (["gb18030", "gb18030_2000"], .chinaFull),
  (["hz", "hzgb", "hz_gb", "hz_gb_2312"], .chinaSevenBits),
  (["big5", "big5_tw", "csbig5", "x_mac_trad_chinese"], .taiwan),
  (["cp950", "950", "ms950"], .taiwanVendor),
  (["big5hkscs", "big5_hkscs", "hkscs"], .hongKong),
  (["euc_kr", "euckr", "korean", "ksc5601", "ks_c_5601", "ks_c_5601_1987", "ksx1001",
    "ks_x_1001", "x_mac_korean"], .korea),
  (["cp949", "949", "ms949", "uhc"], .koreaLarge),
  (["johab", "cp1361", "ms1361"], .koreaPlaces),
  (["iso2022_kr", "csiso2022kr", "iso2022kr", "iso_2022_kr"], .koreaSwitched),
  (["euc_jp", "eucjp", "ujis", "u_jis"], .japan),
  (["euc_jisx0213", "eucjisx0213"], .japanExtended false),
  (["euc_jis_2004", "jisx0213", "eucjis2004", "euc_jis2004"], .japanExtended true),
  (["shift_jis", "csshiftjis", "shiftjis", "sjis", "s_jis", "x_mac_japanese"], .japanPacked),
  (["cp932", "932", "ms932", "mskanji", "ms_kanji"], .japanVendor),
  (["shift_jisx0213", "shiftjisx0213", "sjisx0213", "s_jisx0213"], .japanPackedExtended false),
  (["shift_jis_2004", "shiftjis2004", "sjis_2004", "s_jis_2004"], .japanPackedExtended true),
  (["iso2022_jp", "csiso2022jp", "iso2022jp", "iso_2022_jp"], .japanSwitched),
  (["iso2022_jp_1", "iso2022jp_1", "iso_2022_jp_1"], .japanSwitchedSupplement),
  (["iso2022_jp_2", "iso2022jp_2", "iso_2022_jp_2"], .japanSwitchedForeign),
  (["iso2022_jp_3", "iso2022jp_3", "iso_2022_jp_3"], .japanSwitchedExtended false),
  (["iso2022_jp_2004", "iso_2022_jp_2004", "iso2022jp_2004"], .japanSwitchedExtended true),
  (["iso2022_jp_ext", "iso2022jp_ext", "iso_2022_jp_ext"], .japanSwitchedKana)]

/-- Encodings that have one octet for each character. -/
def pages : List (List String × Page) :=
  standardPages ++ windowPages ++ terminalPages ++ mainframePages

/-- What stands under a name. -/
def underName? {α : Type} (name : String) (named : List (List String × α)) : Option α :=
  (named.find? fun (names, _) => names.contains name).map Prod.snd

/-- All encodings with their names. -/
def encodings : List (List String × Encoding) :=
  generalEncodings ++ cellEncodings ++ pages.map fun (names, page) => (names, .paged page)

/-- The encoding with a name, if there is one.  Names beside the first one of an encoding may have
dots instead of low lines. -/
def Encoding.ofName? (name : String) : Option Encoding :=
  let name := encodingName name.toList
  let undotted := name.map fun c => if c = '.' then '_' else c
  (underName? (String.ofList name) encodings).or
    (underName? (String.ofList undotted)
      (encodings.map fun (names, encoding) => (names.drop 1, encoding)))

end Tweaks.Text
