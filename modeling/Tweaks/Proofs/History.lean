import Tweaks.Compilation
import Tweaks.Proofs.Machine

/-!
# One memo for many compilations

A memo outlives the call or the compilation that filled it.  Whatever was resolved
or compiled before, also where it failed or had a scope, the memo stays sound, so
that what comes later without a scope cannot tell it from an empty one.

Main results:

- `exists_compileWith`: with a sound memo a selection compiles to what it does
  without one, and leaves a sound memo.
- `sound_run`, `sound_memoAfter`: every operation, and so every history of
  operations, leaves a sound memo.
- `fst_resolveWith_memoAfter`: a call without a scope, behind a history.
- `memoAfter_changes_no_answer`: no call without a scope and no selection is answered
  otherwise than at the start.
-/

namespace Tweaks.Compilation

open Resolution

variable {c : Collection} {registry : Template.Registry}

/-! ## Compiling without a memo -/

/-- The code of a script, each of its calls resolved without a memo. -/
def scriptCode (c : Collection) (registry : Template.Registry) (s : Script) :
    Except Failure Resolved :=
  if s.calls.isEmpty then .ok (inlineCode s)
  else (s.calls.mapM (resolve c registry [])).map merge

/-- A script with its code, or why the script is not compiled. -/
def compiledScript (c : Collection) (registry : Template.Registry) (direction : Direction)
    (s : Script) : Except CompileError (Script × Resolved) :=
  match scriptCode c registry s with
  | .error e => .error (.script s.name direction e)
  | .ok code => .ok (s, code)

/-- With a sound memo a call without a scope resolves as it does without one. -/
theorem exists_resolveWith_of_sound {memo : Memo} (hsound : memo.Sound c registry)
    (call : Call) :
    ∃ memo' : Memo, memo'.Sound c registry ∧
      resolveWith c registry memo [] call = (resolve c registry [] call, memo') := by
  refine ⟨_, sound_resolveWith hsound [] call, Prod.ext ?_ rfl⟩
  rw [fst_resolveWith hsound]
  exact resolveKnowing_of_sound hsound call

/-- With a sound memo the calls of a script resolve as they do without one. -/
theorem exists_resolveEach {memo : Memo} (hsound : memo.Sound c registry)
    (calls : List Call) :
    ∃ memo' : Memo, memo'.Sound c registry ∧
      resolveEach c registry memo calls = (calls.mapM (resolve c registry []), memo') := by
  induction calls generalizing memo with
  | nil => exact ⟨memo, hsound, rfl⟩
  | cons call rest ih =>
    obtain ⟨memo₁, hsound₁, hcall⟩ := exists_resolveWith_of_sound hsound call
    rw [resolveEach, hcall, List.mapM_cons]
    cases resolve c registry [] call with
    | error e => exact ⟨memo₁, hsound₁, rfl⟩
    | ok first =>
      obtain ⟨memo₂, hsound₂, hrest⟩ := ih hsound₁
      refine ⟨memo₂, hsound₂, ?_⟩
      dsimp only
      rw [hrest]
      cases rest.mapM (resolve c registry []) <;> rfl

/-- With a sound memo a script has the code it has without one. -/
theorem exists_resolveScript {memo : Memo} (hsound : memo.Sound c registry) (s : Script) :
    ∃ memo' : Memo, memo'.Sound c registry ∧
      resolveScript c registry memo s = (scriptCode c registry s, memo') := by
  rw [resolveScript, scriptCode]
  by_cases hcalls : s.calls.isEmpty
  · exact ⟨memo, hsound, by simp only [hcalls, ↓reduceIte]⟩
  · obtain ⟨memo', hsound', heach⟩ := exists_resolveEach hsound s.calls
    refine ⟨memo', hsound', ?_⟩
    rw [heach]
    cases s.calls.mapM (resolve c registry []) <;>
      simp only [hcalls, Bool.false_eq_true, ↓reduceIte] <;> rfl

/-- With a sound memo scripts compile as they do without one, up to the first that
fails. -/
theorem exists_resolveScripts {memo : Memo} (hsound : memo.Sound c registry)
    (direction : Direction) (scripts : List Script) :
    ∃ memo' : Memo, memo'.Sound c registry ∧
      resolveScripts c registry direction memo scripts =
        (scripts.mapM (compiledScript c registry direction), memo') := by
  induction scripts generalizing memo with
  | nil => exact ⟨memo, hsound, rfl⟩
  | cons s rest ih =>
    obtain ⟨memo₁, hsound₁, hs⟩ := exists_resolveScript hsound s
    rw [resolveScripts, hs, List.mapM_cons, compiledScript]
    cases scriptCode c registry s with
    | error e => exact ⟨memo₁, hsound₁, rfl⟩
    | ok code =>
      obtain ⟨memo₂, hsound₂, hrest⟩ := ih hsound₁
      refine ⟨memo₂, hsound₂, ?_⟩
      dsimp only
      rw [hrest]
      cases rest.mapM (compiledScript c registry direction) <;> rfl

/-- Compiling a selection, without a memo. -/
theorem compile_eq (c : Collection) (registry : Template.Registry) (s : Selection) :
    compile c registry s =
      match check c s with
      | .error e => .error e
      | .ok () =>
        ((selected c s).mapM (compiledScript c registry s.direction)).map fun compiled =>
          keep [] (compiled.map fun (script, code) => fragment s.direction script code) := by
  rw [compile, compileWith]
  cases check c s with
  | error e => rfl
  | ok _ =>
    obtain ⟨memo', -, h⟩ :=
      exists_resolveScripts (Memo.sound_nil (c := c)) s.direction (selected c s)
    dsimp only
    rw [h]
    cases (selected c s).mapM (compiledScript c registry s.direction) <;> rfl

/-- With a sound memo a selection compiles to what it does without one. -/
theorem exists_compileWith {memo : Memo} (hsound : memo.Sound c registry) (s : Selection) :
    ∃ memo' : Memo, memo'.Sound c registry ∧
      compileWith c registry memo s = (compile c registry s, memo') := by
  rw [compile_eq, compileWith]
  cases check c s with
  | error e => exact ⟨memo, hsound, rfl⟩
  | ok _ =>
    obtain ⟨memo', hsound', h⟩ := exists_resolveScripts hsound s.direction (selected c s)
    refine ⟨memo', hsound', ?_⟩
    dsimp only
    rw [h]
    cases (selected c s).mapM (compiledScript c registry s.direction) <;> rfl

/-! ## Histories -/

/-- What a memo is used for. -/
inductive Operation where
  /-- Resolving a call, while the functions of a scope are being resolved. -/
  | resolve (scope : List String) (call : Call)
  /-- Resolving a single script. -/
  | script (script : Script)
  /-- Compiling a selection. -/
  | compile (selection : Selection)
deriving DecidableEq, Repr

/-- The memo behind an operation, whether it succeeds or fails. -/
def Operation.run (c : Collection) (registry : Template.Registry) (memo : Memo) :
    Operation → Memo
  | .resolve scope call => (resolveWith c registry memo scope call).2
  | .script s => (resolveScript c registry memo s).2
  | .compile s => (compileWith c registry memo s).2

/-- The memo behind a history of operations, the first of which found it empty. -/
def memoAfter (c : Collection) (registry : Template.Registry) (history : List Operation) :
    Memo :=
  history.foldl (Operation.run c registry) []

/-- An operation leaves a sound memo sound. -/
theorem sound_run {memo : Memo} (hsound : memo.Sound c registry) (operation : Operation) :
    (operation.run c registry memo).Sound c registry := by
  cases operation with
  | resolve scope call => exact sound_resolveWith hsound scope call
  | script s =>
    obtain ⟨memo', hsound', h⟩ := exists_resolveScript hsound s
    rw [Operation.run, h]
    exact hsound'
  | compile s =>
    obtain ⟨memo', hsound', h⟩ := exists_compileWith hsound s
    rw [Operation.run, h]
    exact hsound'

/-- Every history of operations leaves a sound memo. -/
theorem sound_memoAfter (c : Collection) (registry : Template.Registry)
    (history : List Operation) : (memoAfter c registry history).Sound c registry := by
  induction history using List.reverseRecOn with
  | nil => exact Memo.sound_nil
  | append_singleton earlier last ih =>
    rw [memoAfter, List.foldl_append]
    exact sound_run ih last

/-- Whatever was done with the memo before, a call without a scope is answered as
without a memo. -/
theorem fst_resolveWith_memoAfter (c : Collection) (registry : Template.Registry)
    (history : List Operation) (call : Call) :
    (resolveWith c registry (memoAfter c registry history) [] call).1 =
      resolve c registry [] call := by
  have hsound := sound_memoAfter c registry history
  rw [fst_resolveWith hsound, resolveKnowing_of_sound hsound]

/-- Whatever was done with the memo before: a call without a scope and a selection are
answered exactly as with an empty memo, be it by code or by an error. -/
theorem memoAfter_changes_no_answer (c : Collection) (registry : Template.Registry)
    (history : List Operation) :
    (∀ call, (resolveWith c registry (memoAfter c registry history) [] call).1 =
      (resolveWith c registry [] [] call).1) ∧
    ∀ s, (compileWith c registry (memoAfter c registry history) s).1 =
      (compileWith c registry [] s).1 := by
  have hsound := sound_memoAfter c registry history
  constructor
  · intro call
    rw [fst_resolveWith hsound, fst_resolveWith Memo.sound_nil]
    rw [resolveKnowing_of_sound hsound, resolveKnowing_of_sound Memo.sound_nil]
  · intro s
    obtain ⟨memo', -, h⟩ := exists_compileWith hsound s
    rw [h, compile]

end Tweaks.Compilation
