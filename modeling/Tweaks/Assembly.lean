import Tweaks.Banner.Sense
import Tweaks.Compilation

/-!
# Assembling scripts

Puts fragments together into the text of a script: a header, the fragments with
banners around them, and a footer, one blank line apart, with the line endings
of the platform.  Header and footer may refer to global variables.

Main results:

- `fragmentTexts_plain`: without comments a script holds the fragments' own texts.
- `assemble_of_fragmentTexts`, `assemble_plain`: a script of fragments that have texts, and
  one without banners.
-/

namespace Tweaks

/-- The values of global variables, in the order in which they are filled in. -/
abbrev Globals := List (String × String)

namespace Assembly

/-- How a text refers to a global variable. -/
def reference (name : String) : List Char :=
  "\x7b\x7b $".toList ++ name.toList ++ " \x7d\x7d".toList

/-- A text with every reference to the variables replaced by their values, one
variable after the other. -/
def fillGlobals (globals : Globals) (text : String) : String :=
  String.ofList (globals.foldl
    (fun text (name, value) => Text.replace (reference name) value.toList text) text.toList)

/-! ## Banners -/

/-- A line of the usual banner: the comment mark, and a text in a rule. -/
def standardRule (e : Banner.Expr) : Banner :=
  [.output [.name "comment"], .text " ", .output [.filter "rule" e []]]

/-- The usual banner: the title between rules, a command that says it, the code,
and a rule. -/
def standardBanner : Banner :=
  standardRule (.constant (.text "")) ++ .text "\n" ::
    (standardRule (.name "title") ++ .text "\n" ::
      (standardRule (.constant (.text "")) ++ .text "\necho --- " ::
        .output [.name "title"] :: .text "\n" :: .output [.name "body"] :: .text "\n" ::
          standardRule (.constant (.text ""))))

/-- How a script is put together: the mark of comments if fragments get banners,
the ending of lines, and the banner. -/
structure Style where
  comment : Option String
  lineEnding : String
  banner : Banner

/-- Why a script cannot be put together. -/
inductive StyleError where
  /-- The banner's source is none. -/
  | syntactic
  /-- The banner cannot be filled in. -/
  | banner (fault : Banner.Fault)
deriving DecidableEq, Repr

/-- A style with a banner given by its source.  The source is looked at only if
there is a comment mark. -/
def Style.ofSource (comment : Option String) (lineEnding source : String) :
    Except StyleError Style :=
  match comment.filter fun mark => !mark.isEmpty with
  | none => .ok ⟨none, lineEnding, []⟩
  | some mark =>
    match Banner.ofSource source with
    | .ok banner => .ok ⟨some mark, lineEnding, banner⟩
    | .error .malformed => .error .syntactic
    | .error (.fault fault) => .error (.banner fault)

/-- A style with the usual banner. -/
def Style.standard (comment : Option String) (lineEnding : String) : Style :=
  ⟨comment.filter fun mark => !mark.isEmpty, lineEnding, standardBanner⟩

/-- The values that a banner may refer to. -/
def bannerScope (mark : String) (f : Fragment) : Banner.Scope :=
  [("comment", .text mark), ("title", .text f.title), ("name", .text f.name),
    ("body", .text f.text)]

/-- The text of a fragment, with its banner if there is one. -/
def fragmentText (style : Style) (f : Fragment) : Except StyleError String :=
  match style.comment with
  | none => .ok f.text
  | some mark => (style.banner.render (bannerScope mark f)).mapError .banner

/-- The texts of fragments, with their banners if there are any. -/
def fragmentTexts (style : Style) : List Fragment → Except StyleError (List String)
  | [] => .ok []
  | f :: rest => do
    let first ← fragmentText style f
    let others ← fragmentTexts style rest
    return first :: others

/-! ## Scripts -/

/-- A header or footer without breaks around it, unless it is blank. -/
def framePart (text : String) : List String :=
  if Text.isBlankText text then [] else [Text.trim text]

/-- A text with another ending of lines. -/
def withLineEnding (lineEnding : String) (text : String) : String :=
  if lineEnding = "\n" then text
  else
    let unix := Text.replace ['\r', '\n'] ['\n'] text.toList
    String.ofList (Text.replace ['\n'] lineEnding.toList unix)

/-- Header, fragments and footer as one script. -/
def assemble (style : Style) (header footer : String) (fragments : List Fragment) :
    Except StyleError String := do
  let texts ← fragmentTexts style fragments
  let parts := framePart header ++ texts ++ framePart footer
  return withLineEnding style.lineEnding (Text.join "\n\n" parts ++ "\n")

/-- Without comments a script holds the fragments' own texts. -/
theorem fragmentTexts_plain {style : Style} (h : style.comment = none)
    (fragments : List Fragment) :
    fragmentTexts style fragments = .ok (fragments.map Fragment.text) := by
  induction fragments with
  | nil => rfl
  | cons f rest ih =>
    simp [fragmentTexts, fragmentText, h, ih, bind, Except.bind, pure, Except.pure]

/-- A script of fragments that have texts. -/
theorem assemble_of_fragmentTexts {style : Style} {fragments : List Fragment}
    {texts : List String} (h : fragmentTexts style fragments = .ok texts)
    (header footer : String) :
    assemble style header footer fragments =
      .ok (withLineEnding style.lineEnding
        (Text.join "\n\n" (framePart header ++ texts ++ framePart footer) ++ "\n")) := by
  rw [assemble, h]
  rfl

/-- Lines that end in line feeds stay as they are. -/
@[simp]
theorem withLineEnding_lineFeed (text : String) : withLineEnding "\n" text = text :=
  if_pos rfl

/-- A script without banners, with line feeds. -/
theorem assemble_plain (header footer : String) (fragments : List Fragment) :
    assemble (Style.standard none "\n") header footer fragments =
      .ok (Text.join "\n\n"
        (framePart header ++ fragments.map Fragment.text ++ framePart footer) ++ "\n") := by
  have htexts : fragmentTexts (Style.standard none "\n") fragments =
      .ok (fragments.map Fragment.text) := fragmentTexts_plain rfl fragments
  rw [assemble_of_fragmentTexts htexts]
  exact congrArg Except.ok (withLineEnding_lineFeed _)

/-- The parts of a script one blank line apart, by their characters. -/
theorem toList_parts (parts : List String) :
    (Text.join "\n\n" parts ++ "\n").toList =
      Text.joinWith ['\n', '\n'] (parts.map String.toList) ++ ['\n'] := by
  rw [Text.join, String.toList_append, String.toList_ofList]
  rfl

end Assembly

end Tweaks
