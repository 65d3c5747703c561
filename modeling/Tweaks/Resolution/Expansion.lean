import Tweaks.Resolution.Basic

/-!
# Expanding calls

Resolving a call, by recursion over the calls inside the called function.  A
function that is being resolved already must not be entered again; since each
call adds a function to those, resolving comes to an end.

Main results:

- `unvisited_snoc_lt`: entering a function leaves fewer functions to enter.
- `resolve_of_unknown`, `resolve_of_cycle`: the two ways in which a call fails
  before its arguments are looked at.
-/

namespace Tweaks.Resolution

/-- How many functions of a collection are not among those being resolved. -/
def unvisited (c : Collection) (scope : List String) : Nat :=
  c.functions.countP fun f => !scope.contains f.name

/-- With a function more among those being resolved, no more are left. -/
theorem countP_snoc_le (scope : List String) (name : String) (functions : List Function) :
    functions.countP (fun f => !(scope ++ [name]).contains f.name) ≤
      functions.countP (fun f => !scope.contains f.name) := by
  refine List.countP_mono_left fun f _ h => ?_
  simp_all

/-- Entering a function leaves fewer functions to enter. -/
theorem unvisited_snoc_lt {c : Collection} {scope : List String} {f : Function}
    (h : f ∈ c.functions) (h' : f.name ∉ scope) :
    unvisited c (scope ++ [f.name]) < unvisited c scope := by
  unfold unvisited
  generalize c.functions = functions at h
  induction functions with
  | nil => cases h
  | cons g functions ih =>
    rw [List.countP_cons, List.countP_cons]
    have hle := countP_snoc_le scope f.name functions
    by_cases heq : g = f
    · subst heq
      have h1 : (!(scope ++ [g.name]).contains g.name) = false := by simp
      have h2 : (!scope.contains g.name) = true := by simp [h']
      rw [h1, h2]
      simp only [Bool.false_eq_true, ↓reduceIte]
      omega
    · have hmem : f ∈ functions := by
        rcases List.mem_cons.1 h with rfl | h
        · exact absurd rfl heq
        · exact h
      have := ih hmem
      have h1 : (!(scope ++ [f.name]).contains g.name) = true →
          (!scope.contains g.name) = true := by simp_all
      split
      · next hg => rw [if_pos (h1 hg)]; omega
      · split <;> omega

/-- The functions from the first entry of a function on, and the function once
more. -/
def cycleFrom (scope : List String) (name : String) : List String :=
  scope.dropWhile (· ≠ name) ++ [name]

mutual

/-- The codes of a call, while the functions of `scope` are being resolved. -/
def resolve (c : Collection) (registry : Template.Registry) (scope : List String)
    (call : Call) : Except Failure Resolved :=
  match _h : c.getFunction? call.function with
  | none => .error (.error (.unknownFunction call.function))
  | some f =>
    if _h' : f.name ∈ scope then .error (.error (.cyclicCall (cycleFrom scope f.name)))
    else do
      let values ← bindArguments f call.arguments
      if f.calls.isEmpty then leaf registry f values
      else
        let results ← resolveCalls c registry f values (scope ++ [f.name]) f.calls
        return merge results
termination_by (unvisited c scope, 0)
decreasing_by
  exact Prod.Lex.left _ _ (unvisited_snoc_lt (c.mem_of_getFunction? _h) _h')

/-- The codes of calls inside a function, in order. -/
def resolveCalls (c : Collection) (registry : Template.Registry) (f : Function)
    (values : Template.Values) (scope : List String) (calls : List Call) :
    Except Failure (List Resolved) :=
  match calls with
  | [] => .ok []
  | call :: rest => do
    let arguments ← fillArguments registry f values call.arguments
    let first ← resolve c registry scope ⟨call.function, arguments⟩
    let others ← resolveCalls c registry f values scope rest
    return first :: others
termination_by (unvisited c scope, calls.length)

end

/-- A call of a function that the collection lacks. -/
theorem resolve_of_unknown {c : Collection} {call : Call}
    (h : c.getFunction? call.function = none) (registry : Template.Registry)
    (scope : List String) :
    resolve c registry scope call = .error (.error (.unknownFunction call.function)) := by
  rw [resolve]
  split
  · rfl
  · simp_all

/-- A call of a function that is being resolved already. -/
theorem resolve_of_cycle {c : Collection} {call : Call} {f : Function} {scope : List String}
    (h : c.getFunction? call.function = some f) (h' : f.name ∈ scope)
    (registry : Template.Registry) :
    resolve c registry scope call = .error (.error (.cyclicCall (cycleFrom scope f.name))) := by
  rw [resolve]
  split
  · simp_all
  · next g hg =>
    obtain rfl : f = g := by simpa [h] using hg
    simp [h']

end Tweaks.Resolution
