import Tweaks.Banner.Basic

/-!
# Parts of expressions

The expressions of which an expression is made, changing all of them, and how deep they lie
within each other.
-/

namespace Tweaks.Banner

/-! ## Parts -/

/-- The expression of an argument. -/
def Argument.expr : Argument → Expr
  | .place e => e
  | .named _ e => e
  | .spread e => e
  | .spreadNamed e => e

/-- An argument with another expression. -/
def Argument.withExpr (e : Expr) : Argument → Argument
  | .place _ => .place e
  | .named name _ => .named name e
  | .spread _ => .spread e
  | .spreadNamed _ => .spreadNamed e

/-- The expressions of which an expression is made. -/
def Expr.children : Expr → List Expr
  | .constant _ => []
  | .name _ => []
  | .tuple items => items
  | .list items => items
  | .mapping entries => entries.flatMap fun (k, v) => [k, v]
  | .sign _ e => [e]
  | .operate _ left right => [left, right]
  | .join parts => parts
  | .compare first others => first :: others.map Prod.snd
  | .invert e => [e]
  | .both left right => [left, right]
  | .either left right => [left, right]
  | .choose condition yes no => [condition, yes] ++ no.toList
  | .item e key => [e, key]
  | .part e _ => [e]
  | .slice e start stop step => e :: (start.toList ++ stop.toList ++ step.toList)
  | .filter _ e arguments => e :: arguments.map Argument.expr
  | .test _ e arguments => e :: arguments.map Argument.expr
  | .call e arguments => e :: arguments.map Argument.expr
  | .captured => []

/-- The arguments of an expression. -/
def Expr.arguments : Expr → List Argument
  | .filter _ _ arguments => arguments
  | .test _ _ arguments => arguments
  | .call _ arguments => arguments
  | _ => []

/-- An expression with another one in the place of each of which it is made. -/
def Expr.changed {m : Type → Type} [Monad m] (f : Expr → m Expr) (e : Expr) : m Expr :=
  let all (arguments : List Argument) : m (List Argument) :=
    arguments.mapM fun a => do return a.withExpr (← f a.expr)
  let may (e : Option Expr) : m (Option Expr) := match e with
    | some e => do return some (← f e)
    | none => return none
  match e with
  | .constant v => return .constant v
  | .name word => return .name word
  | .tuple items => do return .tuple (← items.mapM f)
  | .list items => do return .list (← items.mapM f)
  | .mapping entries => do
    return .mapping (← entries.mapM fun (k, v) => do return (← f k, ← f v))
  | .sign negative e => do return .sign negative (← f e)
  | .operate op left right => do return .operate op (← f left) (← f right)
  | .join parts => do return .join (← parts.mapM f)
  | .compare first others => do
    return .compare (← f first) (← others.mapM fun (op, e) => do return (op, ← f e))
  | .invert e => do return .invert (← f e)
  | .both left right => do return .both (← f left) (← f right)
  | .either left right => do return .either (← f left) (← f right)
  | .choose condition yes no => do return .choose (← f condition) (← f yes) (← may no)
  | .item e key => do return .item (← f e) (← f key)
  | .part e word => do return .part (← f e) word
  | .slice e start stop step => do
    return .slice (← f e) (← may start) (← may stop) (← may step)
  | .filter word e arguments => do return .filter word (← f e) (← all arguments)
  | .test word e arguments => do return .test word (← f e) (← all arguments)
  | .call e arguments => do return .call (← f e) (← all arguments)
  | .captured => return .captured

/-! ## Depth -/

/-- The most that the expressions within each other cost, as far as they are looked at. -/
def Expr.depth (cost : Expr → Nat) : (fuel : Nat) → Expr → Nat
  | 0, e => cost e
  | fuel + 1, e => cost e + (e.children.map (depth cost fuel)).foldl max 0

/-- Whether an expression or one within it has a property, as far as they are looked at. -/
def Expr.anywhere (holds : Expr → Bool) : (fuel : Nat) → Expr → Bool
  | 0, e => holds e
  | fuel + 1, e => holds e || e.children.any (anywhere holds fuel)

end Tweaks.Banner
