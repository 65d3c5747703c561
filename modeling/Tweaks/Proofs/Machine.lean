import Tweaks.Proofs.Memo

/-!
# The machine and the recursion

The machine that resolves calls with frames and a memo, compared with the recursion
that has neither.  What happens above a frame is one call: the machine enters it,
works it off, and hands the result to the frame.  Meanwhile the memo grows, but it
only learns what the recursion would find as well.

Main results:

- `run_of_pending_nil`, `run_of_pending_cons`: the two steps of the machine.
- `exists_descend`: above any frames the machine answers a call as the recursion
  does, and goes on with the frame below.
- `fst_resolveWith`, `sound_resolveWith`: its answer to a call, and the memo it
  leaves.
- `fst_resolveWith_nil`: with an empty memo the answer is that of plain resolving.
-/

namespace Tweaks.Resolution

variable {c : Collection} {registry : Template.Registry}

/-! ## Steps of the machine -/

/-- Hands a result to the frame that waits for it, if there is one. -/
def resume (c : Collection) (registry : Template.Registry) (memo : Memo) (result : Resolved) :
    List Frame → Except Failure Resolved × Memo
  | [] => (.ok result, memo)
  | parent :: rest => run c registry memo (parent.add result) rest

/-- Breaks off, or hands a result to the frame that waits for it. -/
def conclude (c : Collection) (registry : Template.Registry) (memo : Memo)
    (answer : Except Failure Resolved) (below : List Frame) : Except Failure Resolved × Memo :=
  match answer with
  | .error e => (.error e, memo)
  | .ok result => resume c registry memo result below

/-- Enters a call above some frames. -/
def descend (c : Collection) (registry : Template.Registry) (memo : Memo)
    (scope : List String) (call : Call) (below : List Frame) : Except Failure Resolved × Memo :=
  match enter c memo scope call with
  | .error e => (.error e, memo)
  | .ok (.known result) => resume c registry memo result below
  | .ok (.frame child) => run c registry memo child below

/-- Resolving a call is entering it above no frame. -/
theorem resolveWith_eq_descend (memo : Memo) (scope : List String) (call : Call) :
    resolveWith c registry memo scope call = descend c registry memo scope call [] := by
  rw [resolveWith, descend]
  cases enter c memo scope call with
  | error e => rfl
  | ok entry => cases entry <;> rfl

/-- Without a frame that waits the answer is final. -/
@[simp]
theorem conclude_nil (memo : Memo) (answer : Except Failure Resolved) :
    conclude c registry memo answer [] = (answer, memo) := by
  cases answer <;> rfl

/-- A frame without further calls is finished, remembered, and hands its result
down. -/
theorem run_of_pending_nil {memo : Memo} {top : Frame} (h : top.pending = [])
    (below : List Frame) :
    run c registry memo top below =
      match finish registry top with
      | .error e => (.error e, memo)
      | .ok result =>
        resume c registry (((top.function.name, top.values), result) :: memo) result below := by
  rw [run]
  split
  · cases finish registry top with
    | error e => rfl
    | ok result => cases below <;> rfl
  · simp_all

/-- A frame with a further call has it entered, and waits. -/
theorem run_of_pending_cons {memo : Memo} {top : Frame} {site : Call} {pending : List Call}
    (h : top.pending = site :: pending) (below : List Frame) :
    run c registry memo top below =
      match fillArguments registry top.function top.values site.arguments with
      | .error e => (.error e, memo)
      | .ok arguments =>
        descend c registry memo top.stack ⟨site.function, arguments⟩
          (top.take pending :: below) := by
  rw [run]
  split
  · simp_all
  · next site' pending' h' =>
    obtain ⟨rfl, rfl⟩ : site = site' ∧ pending = pending' := by simpa [h] using h'
    cases fillArguments registry top.function top.values site.arguments with
    | error e => rfl
    | ok arguments =>
      dsimp only [descend]
      split <;> simp_all [resume]

/-! ## The machine follows the recursion -/

/-- The machine works off the calls of a frame as the recursion does, if it does so
with each of them. -/
theorem exists_run_calls {known : Memo} {base : List String} (f : Function)
    (values : Template.Values) {stack : List String} {calls : List Call}
    (hcalls : ∀ site ∈ calls, ∀ (arguments : List (String × String)) (memo : Memo)
      (below : List Frame), memo.Extends c registry known base →
        ∃ memo' : Memo, memo'.Extends c registry known base ∧
          descend c registry memo stack ⟨site.function, arguments⟩ below =
            conclude c registry memo'
              (resolveKnowing c registry known stack ⟨site.function, arguments⟩) below)
    {memo : Memo} (hmemo : memo.Extends c registry known base) (results : List Resolved)
    (below : List Frame) :
    ∃ memo' : Memo, memo'.Extends c registry known base ∧
      run c registry memo ⟨f, values, stack, calls, results⟩ below =
        match resolveCallsKnowing c registry known f values stack calls with
        | .error e => (.error e, memo')
        | .ok others =>
          run c registry memo' ⟨f, values, stack, [], others.reverse ++ results⟩ below := by
  induction calls generalizing memo results with
  | nil => exact ⟨memo, hmemo, by simp [resolveCallsKnowing]⟩
  | cons site rest ih =>
    have hrest := @ih fun other hother => hcalls other (List.mem_cons_of_mem _ hother)
    rw [run_of_pending_cons rfl, resolveCallsKnowing]
    cases fillArguments registry f values site.arguments with
    | error e => exact ⟨memo, hmemo, rfl⟩
    | ok arguments =>
      obtain ⟨memo₁, hmemo₁, hdescend⟩ :=
        hcalls site List.mem_cons_self arguments memo (⟨f, values, stack, rest, results⟩ :: below)
          hmemo
      dsimp only [Frame.take]
      rw [hdescend]
      cases resolveKnowing c registry known stack ⟨site.function, arguments⟩ with
      | error e => exact ⟨memo₁, hmemo₁, rfl⟩
      | ok first =>
        obtain ⟨memo₂, hmemo₂, hrun⟩ := hrest hmemo₁ (first :: results)
        refine ⟨memo₂, hmemo₂, ?_⟩
        dsimp only [conclude, resume, Frame.add]
        rw [hrun]
        cases resolveCallsKnowing c registry known f values stack rest with
        | error e => rfl
        | ok others => simp

/-- Above any frames the machine answers a call as the recursion does that knows the
memo the run started from, and goes on with the frame below. -/
theorem exists_descend {known : Memo} (hsound : known.Sound c registry)
    {base chain scope : List String} {call : Call} (hscope : scope = base ++ chain)
    (hchain : (chain ++ [call.function]).IsChain c.Calls) {memo : Memo}
    (hmemo : memo.Extends c registry known base) (below : List Frame) :
    ∃ memo' : Memo, memo'.Extends c registry known base ∧
      descend c registry memo scope call below =
        conclude c registry memo' (resolveKnowing c registry known scope call) below := by
  induction scope, call using entering_induction (c := c) generalizing chain memo below with
  | step scope call ih =>
    cases henter : enter c memo scope call with
    | error e =>
      refine ⟨memo, hmemo, ?_⟩
      rw [resolveKnowing_of_error (enter_eq_error henter)]
      simp [descend, henter, conclude]
    | ok entry =>
      cases entry with
      | known r =>
        obtain ⟨hs, hheld⟩ := enter_eq_known.1 henter
        -- The memo may hold the call from the start, or because this run resolved it.
        have hr : resolveKnowing c registry known scope call = .ok r := by
          cases hknown : known.recall c call with
          | some r' =>
            have hsame := hmemo.keeps call r' hknown
            rw [hheld] at hsame
            cases hsame
            exact resolveKnowing_of_known (enter_eq_known.2 ⟨hs, hknown⟩)
          | none =>
            rw [hscope]
            exact resolveKnowing_behind_chain hsound (hmemo.learned call r hheld hknown) hchain
        refine ⟨memo, hmemo, ?_⟩
        rw [hr]
        simp [descend, henter, conclude]
      | frame frame =>
        obtain ⟨f, values, hf, hs, hb, hheld, rfl⟩ := enter_eq_frame.1 henter
        have hknown := hmemo.recall_eq_none hheld
        have hscope' : scope ++ [call.function] = base ++ (chain ++ [call.function]) := by
          rw [hscope, List.append_assoc]
        obtain ⟨memo', hmemo', hrun⟩ := exists_run_calls f values
          (fun site hsite arguments memo below hmemo =>
            ih f hf hs ⟨site.function, arguments⟩ hscope'
              (Collection.isChain_snoc hchain ⟨f, hf, site, hsite, rfl⟩) hmemo below)
          hmemo [] below
        have hanswer : resolveKnowing c registry known scope call = _ :=
          resolveKnowing_of_frame (enter_frame_of_recall henter hs hknown)
        dsimp only at hanswer
        rw [descend, henter]
        dsimp only
        rw [hrun]
        cases hresults : resolveCallsKnowing c registry known f values
            (scope ++ [call.function]) f.calls with
        | error e =>
          rw [hresults] at hanswer
          rw [hanswer]
          exact ⟨memo', hmemo', rfl⟩
        | ok results =>
          rw [hresults] at hanswer
          dsimp only [Frame.complete] at hanswer ⊢
          rw [run_of_pending_nil rfl, List.append_nil, hanswer]
          cases hfinish : finish registry
              ⟨f, values, scope ++ [call.function], [], results.reverse⟩ with
          | error e => exact ⟨memo', hmemo', rfl⟩
          | ok r =>
            rw [hfinish] at hanswer
            refine ⟨_, hmemo'.cons hf hb hknown (r := r) ?_, rfl⟩
            refine resolveKnowing_scope hanswer fun target hneeds hmem => ?_
            exact not_mem_of_needs hanswer hneeds (hscope ▸ List.mem_append_left chain hmem)

/-- What the machine makes of a call, starting from a sound memo. -/
theorem exists_resolveWith {known : Memo} (hsound : known.Sound c registry)
    (scope : List String) (call : Call) :
    ∃ memo' : Memo, memo'.Extends c registry known scope ∧
      resolveWith c registry known scope call =
        (resolveKnowing c registry known scope call, memo') := by
  obtain ⟨memo', hmemo', hdescend⟩ := exists_descend hsound (List.append_nil scope).symm
    (List.isChain_singleton call.function) (Memo.Extends.refl known scope) []
  rw [conclude_nil] at hdescend
  exact ⟨memo', hmemo', (resolveWith_eq_descend known scope call).trans hdescend⟩

/-- The machine answers as the recursion does that knows its memo. -/
theorem fst_resolveWith {known : Memo} (hsound : known.Sound c registry)
    (scope : List String) (call : Call) :
    (resolveWith c registry known scope call).1 =
      resolveKnowing c registry known scope call := by
  obtain ⟨memo', -, h⟩ := exists_resolveWith hsound scope call
  rw [h]

/-- The machine leaves a sound memo behind, also where it fails. -/
theorem sound_resolveWith {known : Memo} (hsound : known.Sound c registry)
    (scope : List String) (call : Call) :
    (resolveWith c registry known scope call).2.Sound c registry := by
  obtain ⟨memo', hmemo', h⟩ := exists_resolveWith hsound scope call
  rw [h]
  exact hmemo'.sound hsound

/-- With an empty memo the machine gives exactly what plain resolving does: the same
codes, or the same error. -/
theorem fst_resolveWith_nil (c : Collection) (registry : Template.Registry)
    (scope : List String) (call : Call) :
    (resolveWith c registry [] scope call).1 = resolve c registry scope call := by
  rw [fst_resolveWith Memo.sound_nil, resolveKnowing_nil]

end Tweaks.Resolution
