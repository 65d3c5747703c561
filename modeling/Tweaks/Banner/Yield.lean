import Tweaks.Banner.Render
import Tweaks.Text.Rule

/-!
# What pieces yield

Most pieces of a banner say something and leave everything as it is.  What such pieces say can
be told from their parts, whatever stands around them.

Main results:

- `Yields.bind`: one computation after the other.
- `yields_name`, `yields_constant`, `yields_rule`: the values of expressions.
- `yields_text`, `yields_output`, `yields_nil`, `yields_cons`: what pieces say.
-/

namespace Tweaks.Banner

/-- Whether a computation comes to a value and leaves everything as it is, whatever objects
do. -/
def Yields {α : Type} (x : Run α) (w : World) (a : α) : Prop :=
  ∀ conduct, x conduct w = .ok (a, w)

/-- One computation after the other. -/
theorem Yields.bind {α β : Type} {x : Run α} {f : α → Run β} {w : World} {a : α} {b : β}
    (first : Yields x w a) (next : Yields (f a) w b) : Yields (x >>= f) w b := by
  intro conduct
  simp only [Bind.bind, ReaderT.bind, StateT.bind, Except.bind, first conduct]
  exact next conduct

/-- What is known already. -/
theorem Yields.pure {α : Type} (a : α) (w : World) : Yields (pure a : Run α) w a :=
  fun _ => rfl

/-! ## Expressions -/

/-- A name stands for the value that is found for it. -/
theorem yields_name {env : Env} {name : String} {w : World} {v : Value} (fuel : Nat)
    (h : w.lookup env.given name env.frames = some v) :
    Yields (evaluate (fuel + 1) env (.name name)) w v := by
  simp only [evaluate]
  refine Yields.bind (a := some v) ?_ ?_
  · intro conduct
    simp [lookup?, h]
  · exact Yields.pure _ _

/-- A constant stands for itself, unless it has no spelling. -/
theorem yields_constant (fuel : Nat) (env : Env) {v : Value} (h : v.isUnspelled = false)
    (w : World) : Yields (evaluate (fuel + 1) env (.constant v)) w v := by
  rw [evaluate_constant fuel env h]
  exact Yields.pure _ _

/-- A text laid out in the middle of dashes is a rule. -/
theorem layValue_rule (s : String) :
    layValue (.text s) "-^60" = pure (Text.rule Text.usualWidth s) := by
  have read : Layout.read false "-^60".toList =
      .ok ⟨'-', some .middle, none, false, false, 60, none, none, none⟩ := rfl
  have full : "-^60".isEmpty = false := by decide
  simp only [layValue, full, Value.textOf?, read, layText_rule, Text.rule, Text.ruleChars,
    Text.usualWidth, Except.bind, Except.map]
  rfl

/-- The filter `rule` puts a text into a rule of the usual width. -/
theorem yields_rule {env : Env} {e : Expr} {w : World} {s : String} (fuel : Nat)
    (h : Yields (evaluate fuel env e) w (.text s)) :
    Yields (evaluate (fuel + 1) env (.filter "rule" e [])) w
      (.text (Text.rule Text.usualWidth s)) := by
  have known : filterNames.contains "rule" = true := by decide +kernel
  have found : simpleFilters.lookup "rule" = some ⟨["width"], 0, applyRule⟩ := rfl
  have run : Filter.run ⟨["width"], 0, applyRule⟩ (.text s) [] [] =
      applyRule [] (.text s) := rfl
  simp only [evaluate]
  refine h.bind (Yields.bind (a := ([], [])) (Yields.pure _ _) ?_)
  simp only [known, if_true]
  rw [applyFilter_simple found, run, applyRule_usual, layValue_rule]
  exact Yields.pure _ _

/-! ## Pieces -/

/-- A text says itself. -/
theorem yields_text (fuel : Nat) (env : Env) (s : String) (w : World) :
    Yields (sayPiece (fuel + 1) env (.text s)) w (some s) := by
  simp only [sayPiece]
  exact Yields.pure _ _

/-- Where nothing is escaped, an expression for a text says the text. -/
theorem yields_output {env : Env} {e : Expr} {w : World} {s : String} (fuel : Nat)
    (off : env.escaping = .off) (h : Yields (evaluate fuel env e) w (.text s)) :
    Yields (sayPiece (fuel + 1) env (.output [e])) w (some s) := by
  have said : Yields (sayIn env (.text s)) w s := by
    simp only [sayIn, off, say]
    exact Yields.pure _ _
  simp only [sayPiece, List.mapM_cons, List.mapM_nil]
  refine Yields.bind (a := [s]) ((h.bind said).bind (Yields.pure _ _)) ?_
  rw [show String.join [s] = s by simp [String.join]]
  exact Yields.pure _ _

/-- Without pieces nothing is said. -/
theorem yields_nil (fuel : Nat) (env : Env) (w : World) :
    Yields (sayPieces (fuel + 1) env []) w (some "") := by
  rw [say_pieces_nil]
  exact Yields.pure _ _

/-- Pieces say what the first one says, and then what the others say. -/
theorem yields_cons {env : Env} {p : Piece} {rest : List Piece} {w : World} {s t : String}
    {fuel : Nat} (first : Yields (sayPiece fuel env p) w (some s))
    (others : Yields (sayPieces fuel env rest) w (some t)) :
    Yields (sayPieces (fuel + 1) env (p :: rest)) w (some (s ++ t)) := by
  simp only [sayPieces]
  exact first.bind (others.bind (Yields.pure _ _))

end Tweaks.Banner
