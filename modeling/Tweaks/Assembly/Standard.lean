import Tweaks.Assembly
import Tweaks.Banner.Yield

/-!
# The usual banner

How the usual banner is spelled as a template, and the text that it gives a fragment: a title
between rules, a command that says the title, the code, and a rule.

Main results:

- `parse_standardSource`: the source spells the banner.
- `render_standardBanner`: the banner gives every fragment its text.
- `fragmentTexts_standard`: with the usual banner no fragment fails.
- `fragmentTexts_usual`: nor does any without banners.
- `assemble_usual`: so there is always a script.
-/

namespace Tweaks.Assembly

open Banner

/-! ## Source -/

/-- The source of the usual banner. -/
def standardSource : String :=
  "\x7b\x7b comment \x7d\x7d \x7b\x7b '' | rule \x7d\x7d\n" ++
    "\x7b\x7b comment \x7d\x7d \x7b\x7b title | rule \x7d\x7d\n" ++
    "\x7b\x7b comment \x7d\x7d \x7b\x7b '' | rule \x7d\x7d\n" ++
    "echo --- \x7b\x7b title \x7d\x7d\n" ++
    "\x7b\x7b body \x7d\x7d\n" ++
    "\x7b\x7b comment \x7d\x7d \x7b\x7b '' | rule \x7d\x7d"

/-- A line with a comment and a rule, in segments. -/
def ruleSegments (e : Lexeme) : List Segment :=
  [.output [.word "comment"], .text [' '], .output [e, .mark "|", .word "rule"]]

/-- The segments of the source. -/
def standardSegments : List Segment :=
  List.flatten
    [ruleSegments (.text ""), [.text ['\n']], ruleSegments (.word "title"), [.text ['\n']],
      ruleSegments (.text ""), [.text "\necho --- ".toList, .output [.word "title"],
        .text ['\n'], .output [.word "body"], .text ['\n']], ruleSegments (.text "")]

/-- The source falls into these segments. -/
theorem segments?_standardSource : segments? standardSource = some standardSegments := by
  decide +kernel

/-- The source spells the banner. -/
theorem parse_standardSource : Banner.parse standardSource = .ok standardBanner := by
  rw [Banner.parse, segments?_standardSource]
  with_unfolding_all rfl

/-! ## Text -/

/-- A comment that holds a text in a rule. -/
def ruleLine (mark s : String) : String :=
  mark ++ " " ++ Text.rule Text.usualWidth s

/-- The text of a fragment with the usual banner. -/
def standardText (mark : String) (f : Fragment) : String :=
  ruleLine mark "" ++ "\n" ++ ruleLine mark f.title ++ "\n" ++ ruleLine mark "" ++
    "\necho --- " ++ f.title ++ "\n" ++ f.text ++ "\n" ++ ruleLine mark ""

/-- The lines of the usual banner above the text of a fragment. -/
def bannerHead (mark title : String) : List String :=
  [ruleLine mark "", ruleLine mark title, ruleLine mark "", "echo --- " ++ title]

/-- The usual banner stands around the text of a fragment, on lines of its own. -/
theorem toList_standardText (mark : String) (f : Fragment) :
    (standardText mark f).toList =
      (Text.join "\n" (bannerHead mark f.title)).toList ++
        '\n' :: (f.text.toList ++ '\n' :: (ruleLine mark "").toList) := by
  simp [standardText, bannerHead, Text.join, Text.joinWith]

/-- What surrounds the pieces of the usual banner. -/
def standardEnv (mark : String) (f : Fragment) : Env :=
  { outermost standardBanner (bannerScope mark f) with
    frames := [0]
    known := (frameMentionsOf standardBanner).map (·.name) }

/-- How things stand while the usual banner is filled in: no name has a value of its own. -/
def standardWorld : World := { (default : World) with frames := #[⟨[], []⟩] }

/-- The usual banner is filled in with the values that it is given. -/
theorem enter_standard (mark : String) (f : Fragment) (conduct : Conduct) :
    enter (outermost standardBanner (bannerScope mark f)) (frameMentionsOf standardBanner)
      (ownNames standardBanner) conduct default =
        .ok ((0, standardEnv mark f), standardWorld) := by
  have own : ownNames standardBanner = [] := by decide +kernel
  have unset : unsetNames [] (frameMentionsOf standardBanner) = [] := by decide +kernel
  simp only [own, enter, newFrame, outermost, unset, bind, ReaderT.bind, StateT.bind, Except.bind]
  rfl

/-- The usual banner sees the values that it is given. -/
theorem lookup_standard {mark : String} {f : Fragment} {name : String} {v : Value}
    (h : (bannerScope mark f).lookup name = some v) :
    standardWorld.lookup (standardEnv mark f).given name (standardEnv mark f).frames =
      some v := by
  have given : (standardEnv mark f).given.lookup name = some v := by
    simp [standardEnv, outermost, List.lookup_append, h]
  simpa [standardEnv, standardWorld, World.lookup, World.frameAt] using given

/-- A line of the usual banner says a comment with a rule. -/
theorem yields_standardRule {mark : String} {f : Fragment} {e : Expr} {s t : String}
    {rest : Banner} (fuel : Nat)
    (text : Yields (evaluate (fuel + 1) (standardEnv mark f) e) standardWorld (.text s))
    (others : Yields (sayPieces (fuel + 3) (standardEnv mark f) rest) standardWorld (some t)) :
    Yields (sayPieces (fuel + 6) (standardEnv mark f) (standardRule e ++ rest)) standardWorld
      (some (ruleLine mark s ++ t)) := by
  have comment : Yields (evaluate (fuel + 4) (standardEnv mark f) (.name "comment"))
      standardWorld (.text mark) := yields_name (fuel + 3) (lookup_standard rfl)
  have line := yields_cons (yields_output (fuel + 4) rfl comment)
    (yields_cons (yields_text (fuel + 3) _ " " _)
      (yields_cons (yields_output (fuel + 2) rfl (yields_rule (fuel + 1) text)) others))
  simpa [standardRule, ruleLine, String.append_assoc] using line

/-- The usual banner says the text of a fragment. -/
theorem yields_standardBanner (mark : String) (f : Fragment) (k : Nat) :
    Yields (sayPieces (k + 40) (standardEnv mark f) standardBanner) standardWorld
      (some (standardText mark f)) := by
  have empty (fuel : Nat) : Yields (evaluate (fuel + 1) (standardEnv mark f)
      (.constant (.text ""))) standardWorld (.text "") := yields_constant fuel _ rfl _
  have title (fuel : Nat) : Yields (evaluate (fuel + 1) (standardEnv mark f) (.name "title"))
      standardWorld (.text f.title) := yields_name fuel (lookup_standard rfl)
  have body (fuel : Nat) : Yields (evaluate (fuel + 1) (standardEnv mark f) (.name "body"))
      standardWorld (.text f.text) := yields_name fuel (lookup_standard rfl)
  have newline (fuel : Nat) := yields_text fuel (standardEnv mark f) "\n" standardWorld
  have last := yields_standardRule (k + 18) (empty _) (yields_nil (k + 20) _ _)
  have said := yields_standardRule (k + 34) (empty _)
    (yields_cons (newline _)
      (yields_standardRule (k + 30) (title _)
        (yields_cons (newline _)
          (yields_standardRule (k + 26) (empty _)
            (yields_cons (yields_text _ _ "\necho --- " _)
              (yields_cons (yields_output _ rfl (title _))
                (yields_cons (newline _)
                  (yields_cons (yields_output _ rfl (body _))
                    (yields_cons (newline _) last)))))))))
  simpa [standardBanner, standardText, String.append_assoc] using said

/-- The usual banner gives every fragment its text. -/
theorem render_standardBanner (mark : String) (f : Fragment) :
    standardBanner.render (bannerScope mark f) = .ok (standardText mark f) := by
  have enough : 40 ≤ patience := by decide
  obtain ⟨k, hk⟩ : ∃ k, patience = k + 40 := ⟨patience - 40, (Nat.sub_add_cancel enough).symm⟩
  have said := yields_standardBanner mark f k
  rw [← hk] at said
  simp only [render, bind, ReaderT.bind, StateT.bind, Except.bind, enter_standard, said _]
  rfl

/-- With the usual banner no fragment fails. -/
theorem fragmentTexts_standard {style : Style} {mark : String} (h : style.comment = some mark)
    (usual : style.banner = standardBanner) (fragments : List Fragment) :
    fragmentTexts style fragments = .ok (fragments.map (standardText mark)) := by
  induction fragments with
  | nil => rfl
  | cons f rest ih =>
    have first : fragmentText style f = .ok (standardText mark f) := by
      simp only [fragmentText, h, usual, render_standardBanner]
      rfl
    rw [fragmentTexts, first, ih]
    rfl

/-- The text of a fragment, with the usual banner if there is a mark of comments. -/
def usualText (comment : Option String) (f : Fragment) : String :=
  match comment with
  | none => f.text
  | some mark => standardText mark f

/-- With the usual banner, or without any, no fragment fails. -/
theorem fragmentTexts_usual {style : Style}
    (usual : style.comment = none ∨ style.banner = standardBanner)
    (fragments : List Fragment) :
    fragmentTexts style fragments = .ok (fragments.map (usualText style.comment)) := by
  cases h : style.comment with
  | none => exact fragmentTexts_plain h fragments
  | some mark =>
    rw [h] at usual
    exact fragmentTexts_standard h (usual.resolve_left (Option.some_ne_none mark)) fragments

/-- The parts of a script with the usual banner, or without any, one blank line apart. -/
def usualScript (comment : Option String) (header footer : String)
    (fragments : List Fragment) : String :=
  Text.join "\n\n"
    (framePart header ++ fragments.map (usualText comment) ++ framePart footer) ++ "\n"

/-- With the usual banner, or without any, a script always comes about. -/
theorem assemble_usual {style : Style}
    (usual : style.comment = none ∨ style.banner = standardBanner) (header footer : String)
    (fragments : List Fragment) :
    assemble style header footer fragments =
      .ok (withLineEnding style.lineEnding
        (usualScript style.comment header footer fragments)) :=
  assemble_of_fragmentTexts (fragmentTexts_usual usual fragments) header footer

/-- A script ends in a line feed. -/
theorem exists_usualScript_eq (comment : Option String) (header footer : String)
    (fragments : List Fragment) :
    ∃ s, (usualScript comment header footer fragments).toList = s ++ ['\n'] :=
  ⟨_, toList_parts _⟩

end Tweaks.Assembly
