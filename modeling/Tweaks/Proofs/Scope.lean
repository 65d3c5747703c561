import Tweaks.Pipe
import Tweaks.Proofs.History
import Tweaks.Proofs.Loading

/-!
# Scopes given by the caller

A call may be resolved while functions of a given scope count as being resolved.
With an empty memo it then fails if it reaches one of them.  A memo that holds the
call, or a call on the way to that function, does not look below it, and the cycle
goes unnoticed.

Main results:

- `exists_error_of_reaches`: an empty memo lets no cycle with the scope pass.
- `fst_resolveWith_eq_ok_iff`: exactly when a call resolves in a scope.
- `scope_overlooked_iff`: exactly which calls get past their scope, and that the
  answers are those of an empty memo as long as the memo masks nothing of the scope.
- `sample_overlooked`: a call in a small collection whose answer changes.
-/

namespace Tweaks.Compilation

open Resolution

variable {c : Collection} {registry : Template.Registry}

/-- A call gets past a scope that its function reaches into: it resolves on its own,
and what the memo leaves to be resolved of it meets nothing of the scope. -/
def Overlooks (c : Collection) (registry : Template.Registry) (memo : Memo)
    (scope : List String) (call : Call) : Prop :=
  (∃ name ∈ scope, c.Reaches call.function name) ∧
    (∃ r, resolve c registry [] call = .ok r) ∧
      ∀ target, Needs c registry memo call target → target.function ∉ scope

/-- With an empty memo a call fails that reaches a function of its scope. -/
theorem exists_error_of_reaches {scope : List String} {call : Call} {name : String}
    (hname : name ∈ scope) (hreach : c.Reaches call.function name) :
    ∃ e, (resolveWith c registry [] scope call).1 = .error e := by
  rw [fst_resolveWith Memo.sound_nil]
  cases hanswer : resolveKnowing c registry [] scope call with
  | error e => exact ⟨e, rfl⟩
  | ok r =>
    obtain ⟨target, hneeds, rfl⟩ := exists_needs_of_reaches hanswer hreach
    exact absurd hname (not_mem_of_needs hanswer hneeds)

/-- Exactly when a call resolves in a scope: it does on its own, and the scope names
nothing that the memo leaves to be resolved. -/
theorem fst_resolveWith_eq_ok_iff {memo : Memo} (hsound : memo.Sound c registry)
    {scope : List String} {call : Call} {r : Resolved} :
    (resolveWith c registry memo scope call).1 = .ok r ↔
      resolve c registry [] call = .ok r ∧
        ∀ target, Needs c registry memo call target → target.function ∉ scope := by
  rw [fst_resolveWith hsound, resolveKnowing_eq_ok_iff, resolveKnowing_of_sound hsound]

/-- A call that the memo holds resolves in every scope without its own function. -/
theorem fst_resolveWith_of_recall {memo : Memo} {scope : List String} {call : Call}
    {r : Resolved} (hrecall : memo.recall c call = some r) (hscope : call.function ∉ scope) :
    (resolveWith c registry memo scope call).1 = .ok r := by
  rw [resolveWith, enter_eq_known.2 ⟨hscope, hrecall⟩]

/-- A memo that masks nothing of the scope changes no answer. -/
theorem fst_resolveWith_of_not_masks {memo : Memo} (hsound : memo.Sound c registry)
    {scope : List String} (hmasks : ∀ held, ¬memo.Masks c scope held) (call : Call) :
    (resolveWith c registry memo scope call).1 =
      (resolveWith c registry [] scope call).1 := by
  rw [fst_resolveWith hsound, fst_resolveWith Memo.sound_nil, resolveKnowing_nil]
  exact resolveKnowing_eq_resolve hsound (List.append_nil scope).symm
    (List.isChain_singleton call.function) fun held _ => hmasks held

/-- Where every call that reaches into the scope fails, the memo masks nothing. -/
theorem not_masks_of_errors {memo : Memo} {scope : List String}
    (herrors : ∀ call : Call, (∃ name ∈ scope, c.Reaches call.function name) →
      ∃ e, (resolveWith c registry memo scope call).1 = .error e) (held : Call) :
    ¬memo.Masks c scope held := by
  rintro ⟨hheld, hscope, hreach⟩
  obtain ⟨r, hr⟩ := Option.isSome_iff_exists.1 hheld
  obtain ⟨e, he⟩ := herrors held hreach
  rw [fst_resolveWith_of_recall hr hscope] at he
  cases he

/-- Exactly when a scope is overlooked, whatever was done with the memo before.  A call
that reaches into the scope resolves all the same if and only if the memo overlooks the
scope for it.  All such calls fail, and likewise all answers are those of an empty memo,
if and only if the memo masks nothing of the scope. -/
theorem scope_overlooked_iff (c : Collection) (registry : Template.Registry)
    (history : List Operation) (scope : List String) :
    (∀ call : Call,
      ((∃ name ∈ scope, c.Reaches call.function name) ∧
        ∃ r, (resolveWith c registry (memoAfter c registry history) scope call).1 = .ok r) ↔
      Overlooks c registry (memoAfter c registry history) scope call) ∧
    ((∀ call : Call, (∃ name ∈ scope, c.Reaches call.function name) →
        ∃ e, (resolveWith c registry (memoAfter c registry history) scope call).1 =
          .error e) ↔
      ∀ held, ¬(memoAfter c registry history).Masks c scope held) ∧
    ((∀ call, (resolveWith c registry (memoAfter c registry history) scope call).1 =
        (resolveWith c registry [] scope call).1) ↔
      ∀ held, ¬(memoAfter c registry history).Masks c scope held) := by
  have hsound := sound_memoAfter c registry history
  have hsame (hmasks : ∀ held, ¬(memoAfter c registry history).Masks c scope held) :=
    fst_resolveWith_of_not_masks hsound hmasks
  refine ⟨?_, ⟨not_masks_of_errors, ?_⟩, ⟨?_, hsame⟩⟩
  · intro call
    simp only [Overlooks, fst_resolveWith_eq_ok_iff hsound, exists_and_right]
  · rintro hmasks call ⟨name, hname, hreach⟩
    rw [hsame hmasks]
    exact exists_error_of_reaches hname hreach
  · intro hanswers
    have herrors (call : Call) (hcall : ∃ name ∈ scope, c.Reaches call.function name) :
        ∃ e, (resolveWith c registry (memoAfter c registry history) scope call).1 =
          .error e := by
      obtain ⟨name, hname, hreach⟩ := hcall
      rw [hanswers]
      exact exists_error_of_reaches hname hreach
    exact not_masks_of_errors herrors

/-! ## A cycle that goes unnoticed -/

/-- In the sample the outer function reaches the inner one. -/
theorem sample_reaches : sample.Reaches "Outer" "Inner" :=
  .single ⟨⟨"Outer", [], none, none, [⟨"Inner", []⟩]⟩, by decide, ⟨"Inner", []⟩, by decide, rfl⟩

/-- A call of the outer function, while the inner one is being resolved, is a cycle,
but after the same call without a scope it returns code. -/
theorem sample_overlooked :
    Collection.ofDocument sampleDocument = .ok sample ∧
    (∃ name ∈ ["Inner"], sample.Reaches "Outer" name) ∧
    (resolveWith sample Pipe.standard [] ["Inner"] ⟨"Outer", []⟩).1 =
      .error (.error (.cyclicCall ["Inner", "Outer", "Inner"])) ∧
    (resolveWith sample Pipe.standard
      (memoAfter sample Pipe.standard [.resolve [] ⟨"Outer", []⟩])
      ["Inner"] ⟨"Outer", []⟩).1 = .ok ⟨"clear", none⟩ := by
  refine ⟨ofDocument_sample, ⟨"Inner", by decide, sample_reaches⟩, ?_, ?_⟩
  · decide +kernel
  · decide +kernel

end Tweaks.Compilation
