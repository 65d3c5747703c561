import Tweaks.Banner.Value

/-!
# Banner templates

What a banner around a script's code is made of: text, the values of expressions, and
pieces that stand only under a condition, once for each of several values, or wherever
they are called by name.
-/

namespace Tweaks

namespace Banner

/-- An operation on two values. -/
inductive Operator where
  | add
  | subtract
  | multiply
  /-- The exact quotient. -/
  | divide
  /-- The whole part of the quotient, rounded down. -/
  | quotient
  | remainder
  | power
deriving DecidableEq, Repr

/-- A comparison of two values. -/
inductive Comparison where
  | equal
  | unequal
  | less
  | atMost
  | greater
  | atLeast
  | within
  | notWithin
deriving DecidableEq, Repr

mutual

/-- An expression. -/
inductive Expr where
  | constant (value : Value)
  | name (name : String)
  | tuple (items : List Expr)
  | list (items : List Expr)
  | mapping (entries : List (Expr × Expr))
  | sign (negative : Bool) (e : Expr)
  | operate (op : Operator) (left right : Expr)
  /-- Values said one after the other. -/
  | join (parts : List Expr)
  /-- A value compared with the next one, and this with the one behind it. -/
  | compare (first : Expr) (others : List (Comparison × Expr))
  | invert (e : Expr)
  | both (left right : Expr)
  | either (left right : Expr)
  /-- One of two values; where the second is not given it is missing. -/
  | choose (condition yes : Expr) (no : Option Expr)
  | item (e key : Expr)
  | part (e : Expr) (name : String)
  | slice (e : Expr) (start stop step : Option Expr)
  | filter (name : String) (e : Expr) (arguments : List Argument)
  | test (name : String) (e : Expr) (arguments : List Argument)
  | call (e : Expr) (arguments : List Argument)
  /-- The text that is captured around the expression. -/
  | captured

/-- An argument of a call. -/
inductive Argument where
  | place (e : Expr)
  | named (name : String) (e : Expr)
  /-- Several arguments by their places. -/
  | spread (e : Expr)
  /-- Several arguments by name. -/
  | spreadNamed (e : Expr)

end

instance : Inhabited Expr := ⟨.captured⟩

instance : Inhabited Argument := ⟨.place .captured⟩

/-- Why a source spells no banner. -/
inductive Flaw where
  /-- The source does not follow the rules. -/
  | malformed
  /-- The source follows the rules, but something in it makes no sense. -/
  | fault (fault : Fault)
deriving DecidableEq, Repr

/-- What a value is given to. -/
inductive Target where
  | name (name : String)
  | several (targets : List Target)
  /-- A part of an object that has a name. -/
  | part (object name : String)
deriving Repr, Inhabited

/-- The parameters of a routine, some with expressions for what is not given. -/
abbrev Signature := List (String × Option Expr)

/-- What another template is asked for. -/
inductive ForeignUse where
  /-- Its text, or the text of the first of several that there is.  If it is optional it may
  be missing. -/
  | text (isOptional : Bool)
  /-- Its names. -/
  | names
  /-- What surrounds the blocks of this one. -/
  | frame
deriving DecidableEq, Repr

/-- A piece of a banner. -/
inductive Piece where
  | text (value : String)
  | output (parts : List Expr)
  /-- The first body whose condition holds, or another where none does. -/
  | choice (branches : List (Expr × List Piece)) (otherwise : List Piece)
  /-- A body for each item that meets the condition, or another where there is none.
  If it is open the body may ask for the same with other items. -/
  | loop (target : Target) (items : Expr) (condition : Option Expr) (isOpen : Bool)
      (body empty : List Piece)
  | assign (target : Target) (e : Expr)
  /-- A body whose text is given to a target, changed by the expression. -/
  | capture (target : Target) (e : Option Expr) (body : List Piece)
  /-- A body whose text the expression changes before it is said. -/
  | filtered (e : Expr) (body : List Piece)
  /-- A body that sees more names than what follows it. -/
  | binding (bindings : List (Target × Expr)) (body : List Piece)
  /-- A body that can be asked for by name.  If it is scoped it sees the names around
  it; if it is required there has to be another one instead. -/
  | block (name : String) (isScoped isRequired : Bool) (body : List Piece)
  /-- A body with parameters that can be called by name. -/
  | routine (name : String) (parameters : Signature) (body : List Piece)
  /-- A call of a routine that may ask for a body with parameters. -/
  | calling (parameters : Signature) (e : Expr) (arguments : List Argument) (body : List Piece)
  /-- A body in which values are escaped if the expression is true. -/
  | escaping (e : Expr) (body : List Piece)
  /-- Another template that is asked for, of which there is none. -/
  | foreign (use : ForeignUse) (e : Expr)

instance : Inhabited Piece := ⟨.text ""⟩

end Banner

/-- A banner template: its pieces one after the other. -/
abbrev Banner := List Banner.Piece

namespace Banner

/-! ## Blocks -/

/-- A block of a banner. -/
structure Block where
  name : String
  isScoped : Bool
  isRequired : Bool
  body : List Piece

instance : Inhabited Block := ⟨"", false, false, []⟩

mutual

/-- The blocks within a piece, each before those within it. -/
def Piece.blocks : Piece → List Block
  | .text _ => []
  | .output _ => []
  | .choice branches otherwise => branchBlocks branches ++ blocksOf otherwise
  | .loop _ _ _ _ body empty => blocksOf body ++ blocksOf empty
  | .assign _ _ => []
  | .capture _ _ body => blocksOf body
  | .filtered _ body => blocksOf body
  | .binding _ body => blocksOf body
  | .block name isScoped isRequired body => ⟨name, isScoped, isRequired, body⟩ :: blocksOf body
  | .routine _ _ body => blocksOf body
  | .calling _ _ _ body => blocksOf body
  | .escaping _ body => blocksOf body
  | .foreign _ _ => []

/-- The blocks within pieces. -/
def blocksOf : List Piece → List Block
  | [] => []
  | p :: rest => p.blocks ++ blocksOf rest

/-- The blocks within the branches of a choice. -/
def branchBlocks : List (Expr × List Piece) → List Block
  | [] => []
  | (_, body) :: rest => blocksOf body ++ branchBlocks rest

end

end Banner

end Tweaks
