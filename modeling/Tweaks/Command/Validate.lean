import Tweaks.Command.Opening

/-!
# Checking

Checks collections one after the other: that they can be read, and that every
script can be compiled in both directions.  What is wrong with one does not keep
the others from being checked, unless work breaks off.

Main results:

- `ran_validate`: checking executes nothing.
-/

namespace Tweaks.Command

/-- What is said about a collection that is fine. -/
structure Verdict where
  collection : Collection
  /-- The number of scripts that compile to a text. -/
  emitted : Nat
  /-- The number of scripts that can be undone. -/
  revertible : Nat

/-- Checks a collection. -/
def check (w : Workspace) (path : Path) : Except Obstacle Verdict := do
  let c ← Opened.load w path
  match Compilation.compileWith c Pipe.standard [] (.everything .forward) with
  | (.error e, _) => .error (.ofCompileError e)
  | (.ok forward, memo) =>
    match (Compilation.compileWith c Pipe.standard memo (.everything .revert)).1 with
    | .error e => .error (.ofCompileError e)
    | .ok reverts => .ok ⟨c, forward.length, reverts.length⟩

/-- The line for a collection that is fine. -/
def goodLine (path : Path) (v : Verdict) : String :=
  "[green]OK[/green] " ++ path.text ++ " [dim](" ++ v.collection.os.name ++ ", " ++
    toString v.collection.scripts.length ++ " scripts, " ++ toString v.emitted ++ " emitted, " ++
    toString v.revertible ++ " revertible)[/dim]"

/-- The line for a collection with something wrong. -/
def badLine (path : Path) : String :=
  "[red]FAIL[/red] " ++ path.text

/-- A report on a collection with something wrong, before the reports on others.
The first status counts. -/
def Report.before (failure rest : Report) : Report :=
  match rest.ending with
  | .status _ => { rest.after failure.out failure.err with ending := failure.ending }
  | .breakdown _ => rest.after failure.out failure.err

/-- Checks collections one after the other. -/
def validate (w : Workspace) : List Path → Report
  | [] => .said ""
  | path :: rest =>
    match check w path with
    | .ok verdict => (validate w rest).printing (goodLine path verdict)
    | .error (.breakdown b) => .brokenOff b
    | .error obstacle =>
      (Report.before (.ofObstacle obstacle) (validate w rest)).printing (badLine path)

/-- A report before others executes nothing more. -/
theorem ran_before (failure rest : Report) : (Report.before failure rest).ran = rest.ran := by
  unfold Report.before
  split <;> simp

/-- Printing a line executes nothing more. -/
theorem ran_printing {r : Report} (h : r.ran = []) (text : String) :
    (r.printing text).ran = [] := by
  unfold Report.printing
  split
  · rw [Report.ran_after, h]
  · rfl

/-- Checking executes nothing. -/
@[simp]
theorem ran_validate (w : Workspace) (paths : List Path) : (validate w paths).ran = [] := by
  induction paths with
  | nil => rfl
  | cons path rest ih =>
    rw [validate]
    split
    · exact ran_printing ih _
    · rfl
    · apply ran_printing
      rw [ran_before, ih]

end Tweaks.Command
