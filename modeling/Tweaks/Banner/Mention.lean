import Tweaks.Banner.Basic

/-!
# Names in banners

Which names the expressions and pieces of a banner read or give values to, in the order in
which they stand.  This decides what a frame of names knows before it is filled in.
-/

namespace Tweaks.Banner

/-- A name, and whether it is given a value or only read. -/
structure Mention where
  name : String
  isGiven : Bool
deriving DecidableEq, Repr, Inhabited

/-- Names that are read. -/
def readNames (names : List String) : List Mention :=
  names.map fun name => ⟨name, false⟩

/-- Names that are given values. -/
def givenNames (names : List String) : List Mention :=
  names.map fun name => ⟨name, true⟩

/-! ## Expressions -/

mutual

/-- The names that an expression reads. -/
def Expr.names : Expr → List String
  | .constant _ => []
  | .name name => [name]
  | .tuple items => namesOf items
  | .list items => namesOf items
  | .mapping entries => entryNames entries
  | .sign _ e => e.names
  | .operate _ left right => left.names ++ right.names
  | .join parts => namesOf parts
  | .compare first others => first.names ++ comparedNames others
  | .invert e => e.names
  | .both left right => left.names ++ right.names
  | .either left right => left.names ++ right.names
  | .choose condition yes (some no) => condition.names ++ yes.names ++ no.names
  | .choose condition yes none => condition.names ++ yes.names
  | .item e key => e.names ++ key.names
  | .part e _ => e.names
  | .slice e start stop step =>
    e.names ++ boundNames start ++ boundNames stop ++ boundNames step
  | .filter _ e arguments => e.names ++ argumentNames arguments
  | .test _ e arguments => e.names ++ argumentNames arguments
  | .call e arguments => e.names ++ argumentNames arguments
  | .captured => []

/-- The names that several expressions read. -/
def namesOf : List Expr → List String
  | [] => []
  | e :: rest => e.names ++ namesOf rest

/-- The names that entries read. -/
def entryNames : List (Expr × Expr) → List String
  | [] => []
  | (k, v) :: rest => k.names ++ v.names ++ entryNames rest

/-- The names that compared expressions read. -/
def comparedNames : List (Comparison × Expr) → List String
  | [] => []
  | (_, e) :: rest => e.names ++ comparedNames rest

/-- The names that a bound of a slice reads. -/
def boundNames : Option Expr → List String
  | none => []
  | some e => e.names

/-- The names that arguments read. -/
def argumentNames : List Argument → List String
  | [] => []
  | .place e :: rest => e.names ++ argumentNames rest
  | .named _ e :: rest => e.names ++ argumentNames rest
  | .spread e :: rest => e.names ++ argumentNames rest
  | .spreadNamed e :: rest => e.names ++ argumentNames rest

end

mutual

/-- The names that a target gives values to. -/
def Target.names : Target → List String
  | .name given => [given]
  | .several targets => targetNames targets
  | .part _ _ => []

/-- The names that several targets give values to. -/
def targetNames : List Target → List String
  | [] => []
  | target :: rest => target.names ++ targetNames rest

end

mutual

/-- The names of the objects of which a target is a part. -/
def Target.owners : Target → List String
  | .name _ => []
  | .several targets => targetOwners targets
  | .part owner _ => [owner]

/-- The names of the objects of which several targets are parts. -/
def targetOwners : List Target → List String
  | [] => []
  | target :: rest => target.owners ++ targetOwners rest

end

/-- The names that parameters' expressions read. -/
def Signature.names (s : Signature) : List String :=
  s.flatMap fun (_, e) => boundNames e

/-- The names of parameters. -/
def Signature.parameters (s : Signature) : List String :=
  s.map Prod.fst

/-! ## Pieces -/

mutual

/-- The names that a piece mentions, with all that stands in it but for blocks, of which
only `withBlocks` looks at the bodies. -/
def Piece.mentions (withBlocks : Bool) : Piece → List Mention
  | .text _ => []
  | .output parts => readNames (namesOf parts)
  | .choice branches otherwise =>
    branchMentions withBlocks branches ++ mentionsOf withBlocks otherwise
  | .loop target items condition _ body empty =>
    givenNames target.names ++ readNames items.names ++ mentionsOf withBlocks body ++
      mentionsOf withBlocks empty ++ readNames (boundNames condition)
  | .assign target e => givenNames target.names ++ readNames e.names
  | .capture target e body =>
    givenNames target.names ++ readNames (boundNames e) ++ mentionsOf withBlocks body
  | .filtered e body => mentionsOf withBlocks body ++ readNames e.names
  | .binding bindings body =>
    givenNames (bindings.flatMap fun (target, _) => target.names) ++
      readNames (bindings.flatMap fun (_, e) => e.names) ++ mentionsOf withBlocks body
  | .block _ _ _ body => if withBlocks then mentionsOf withBlocks body else []
  | .routine _ parameters body =>
    givenNames parameters.parameters ++ readNames parameters.names ++
      mentionsOf withBlocks body
  | .calling parameters e arguments body =>
    readNames (e.names ++ argumentNames arguments) ++ givenNames parameters.parameters ++
      readNames parameters.names ++ mentionsOf withBlocks body
  | .escaping e body => readNames e.names ++ mentionsOf withBlocks body
  | .foreign _ e => readNames e.names

/-- The names that pieces mention. -/
def mentionsOf (withBlocks : Bool) : List Piece → List Mention
  | [] => []
  | p :: rest => p.mentions withBlocks ++ mentionsOf withBlocks rest

/-- The names that the branches of a choice mention. -/
def branchMentions (withBlocks : Bool) : List (Expr × List Piece) → List Mention
  | [] => []
  | (e, body) :: rest =>
    readNames e.names ++ mentionsOf withBlocks body ++ branchMentions withBlocks rest

end

/-- Whether a name is read before it is given a value. -/
def isRead (name : String) (mentions : List Mention) : Bool :=
  (mentions.find? (·.name = name)).any (!·.isGiven)

/-- Whether pieces read a name before they give it a value.  Blocks see other names. -/
def readsName (name : String) (body : List Piece) : Bool :=
  isRead name (mentionsOf false body)

/-! ## Frames -/

mutual

/-- The names that a piece mentions in the frame around it.  What stands in a branch is not
told apart. -/
def Piece.frameMentions : Piece → List Mention
  | .text _ => []
  | .output parts => readNames (namesOf parts)
  | .choice branches otherwise =>
    readNames ((branchFrameMentions branches ++ frameMentionsOf otherwise).map (·.name))
  | .loop _ items _ _ _ _ => readNames items.names
  | .assign target e => readNames (e.names ++ target.owners) ++ givenNames target.names
  | .capture target _ _ => readNames target.owners ++ givenNames target.names
  | .filtered e _ => readNames e.names
  | .binding bindings _ => readNames (bindings.flatMap fun (_, e) => e.names)
  | .block _ _ _ _ => []
  | .routine name _ _ => givenNames [name]
  | .calling _ e arguments _ => readNames (e.names ++ argumentNames arguments)
  | .escaping _ _ => []
  | .foreign _ e => readNames e.names

/-- The names that pieces mention in the frame around them. -/
def frameMentionsOf : List Piece → List Mention
  | [] => []
  | p :: rest => p.frameMentions ++ frameMentionsOf rest

/-- The names that the branches of a choice mention in the frame around it. -/
def branchFrameMentions : List (Expr × List Piece) → List Mention
  | [] => []
  | (e, body) :: rest =>
    readNames e.names ++ frameMentionsOf body ++ branchFrameMentions rest

end

/-- The names of a frame that have no value until it gives them one: those that are not
read before, and not known around it. -/
def unsetNames (known : List String) (mentions : List Mention) : List String :=
  (mentions.filter fun m => m.isGiven && !known.contains m.name &&
    !isRead m.name mentions).map (·.name)

end Tweaks.Banner
