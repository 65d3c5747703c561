import Tweaks.Proofs.Knowing

/-!
# The memo

A memo is sound where all it holds of calls is what these calls resolve to on
their own.  Sound knowledge can change an answer only by masking a function of the
scope, below a call that need not be entered any more.

Main results:

- `resolveKnowing_eq_resolve`: sound knowledge that masks nothing of the scope
  changes no answer.
- `resolveKnowing_behind_chain`: what resolves does so again wherever its function is
  called.
- `Memo.Extends.cons`, `Memo.Extends.sound`: what a run adds to a memo, and that a
  sound memo stays sound.
-/

namespace Tweaks.Resolution

variable {c : Collection} {registry : Template.Registry}

/-! ## Sound memos -/

/-- What the memo holds of a call is what the call resolves to on its own. -/
def Memo.Sound (c : Collection) (registry : Template.Registry) (memo : Memo) : Prop :=
  ∀ call r, memo.recall c call = some r → resolve c registry [] call = .ok r

/-- A call that the memo holds masks a function of the scope: its own function is
none of the scope, but reaches one. -/
def Memo.Masks (c : Collection) (memo : Memo) (scope : List String) (held : Call) : Prop :=
  (memo.recall c held).isSome ∧ held.function ∉ scope ∧
    ∃ name ∈ scope, c.Reaches held.function name

/-- Nothing is masked where no scope is given. -/
theorem Memo.not_masks_nil (memo : Memo) (held : Call) : ¬memo.Masks c [] held := by
  rintro ⟨-, -, name, hname, -⟩
  cases hname

/-- The empty memo holds nothing that could be wrong. -/
theorem Memo.sound_nil : Memo.Sound c registry [] := by
  intro call r h
  simp at h

/-- Sound knowledge that masks nothing of the scope changes no answer. -/
theorem resolveKnowing_eq_resolve {known : Memo} (hsound : known.Sound c registry)
    {base chain scope : List String} {call : Call} (hscope : scope = base ++ chain)
    (hchain : (chain ++ [call.function]).IsChain c.Calls)
    (hmasks : ∀ held, Needs c registry known call held → ¬known.Masks c base held) :
    resolveKnowing c registry known scope call = resolve c registry scope call := by
  rw [← resolveKnowing_nil]
  induction scope, call using entering_induction (c := c) generalizing chain with
  | step scope call ih =>
    cases henter : enter c known scope call with
    | error e =>
      rw [resolveKnowing_of_error henter, resolveKnowing_of_error (enter_eq_error henter)]
    | ok entry =>
      cases entry with
      | known r =>
        obtain ⟨hs, hheld⟩ := enter_eq_known.1 henter
        have hown := hsound call r hheld
        rw [← resolveKnowing_nil] at hown
        rw [resolveKnowing_of_known henter, hscope, resolveKnowing_of_isChain hown hchain]
        intro name hname hreach
        have hbase : call.function ∉ base := fun hmem =>
          hs (hscope ▸ List.mem_append_left chain hmem)
        exact hmasks call .refl ⟨by simp [hheld], hbase, name, hname, hreach⟩
      | frame frame =>
        obtain ⟨f, values, hf, hs, hb, hknown, rfl⟩ := enter_eq_frame.1 henter
        have henter' := enter_frame_of_recall henter hs (Memo.recall_nil c call)
        rw [resolveKnowing_of_frame henter, resolveKnowing_of_frame henter']
        dsimp only
        rw [resolveCallsKnowing_congr]
        intro site hsite arguments ha
        have hasks : Asks c registry known call ⟨site.function, arguments⟩ :=
          ⟨f, values, hf, hb, hknown, site, hsite, rfl, ha⟩
        have hscope' : scope ++ [call.function] = base ++ (chain ++ [call.function]) := by
          rw [hscope, List.append_assoc]
        apply ih f hf hs _ hscope'
        · exact Collection.isChain_snoc hchain (calls_of_asks hasks)
        · intro held hneeds
          exact hmasks held (.head hasks hneeds)

/-- Sound knowledge changes no answer to a call of its own. -/
theorem resolveKnowing_of_sound {known : Memo} (hsound : known.Sound c registry)
    (call : Call) : resolveKnowing c registry known [] call = resolve c registry [] call :=
  resolveKnowing_eq_resolve hsound (List.append_nil []).symm (List.isChain_singleton _)
    fun held _ => known.not_masks_nil held

/-- What resolves with sound knowledge does so behind every chain of calls that
leads to it. -/
theorem resolveKnowing_behind_chain {known : Memo} (hsound : known.Sound c registry)
    {base chain : List String} {call : Call} {r : Resolved}
    (h : resolveKnowing c registry known base call = .ok r)
    (hchain : (chain ++ [call.function]).IsChain c.Calls) :
    resolveKnowing c registry known (base ++ chain) call = .ok r := by
  have hown := (resolveKnowing_eq_ok_iff.1 h).1
  rw [resolveKnowing_of_sound hsound, ← resolveKnowing_nil] at hown
  refine resolveKnowing_scope h fun target hneeds hmem => ?_
  rcases List.mem_append.1 hmem with hmem | hmem
  · exact not_mem_of_needs h hneeds hmem
  · exact (acyclicFrom_of_resolves hown).not_mem_of_isChain hchain (reaches_of_needs hneeds) hmem

/-! ## What a run adds to the memo -/

/-- What a memo holds of a call whose arguments are bound. -/
theorem Memo.recall_of_bound {memo : Memo} {call : Call} {f : Function}
    {values : Template.Values} (hf : c.getFunction? call.function = some f)
    (hb : bindArguments f call.arguments = .ok values) :
    memo.recall c call = memo.find? f.name values := by
  simp [Memo.recall, hf, hb, Except.toOption]

/-- The entry added last is found first. -/
theorem Memo.find?_cons (memo : Memo) (key : String × Template.Values) (result : Resolved)
    (function : String) (values : Template.Values) :
    Memo.find? ((key, result) :: memo) function values =
      if (function, values) = key then some result else memo.find? function values := by
  rw [Memo.find?, List.lookup_cons]
  by_cases h : (function, values) = key
  · simp [h]
  · rw [if_neg h, beq_eq_false_iff_ne.2 h]
    rfl

/-- A memo with one entry more holds that entry's result for calls that bind the same
values to the same function, and holds what it did of all others. -/
theorem Memo.recall_cons {memo : Memo} {f : Function} {values : Template.Values}
    {result : Resolved} (hf : c.getFunction? f.name = some f) (call : Call) :
    Memo.recall (((f.name, values), result) :: memo) c call =
      if c.getFunction? call.function = some f ∧
          bindArguments f call.arguments = .ok values then some result
      else memo.recall c call := by
  cases hg : c.getFunction? call.function with
  | none => simp [Memo.recall, hg]
  | some g =>
    cases hb : bindArguments g call.arguments with
    | error e =>
      by_cases hfg : g = f <;> simp_all [Memo.recall, Except.toOption]
    | ok others =>
      rw [recall_of_bound hg hb, recall_of_bound hg hb, find?_cons]
      by_cases hfg : g = f
      · subst hfg
        simp [hb]
      · have hname : g.name ≠ f.name := by
          intro hname
          have hcall := c.name_of_getFunction? hg
          rw [hname] at hcall
          rw [hcall, hg] at hf
          exact hfg (Option.some.inj hf)
        simp [hfg, hname]

/-- A call answers as every other one does that binds the same values to the same
function. -/
theorem resolveKnowing_of_same_values {known : Memo} {scope : List String}
    {call other : Call} {f : Function} {values : Template.Values}
    (hf : c.getFunction? call.function = some f) (hf' : c.getFunction? other.function = some f)
    (hb : bindArguments f call.arguments = .ok values)
    (hb' : bindArguments f other.arguments = .ok values) :
    resolveKnowing c registry known scope call =
      resolveKnowing c registry known scope other := by
  have henter : enter c known scope call = enter c known scope other := by
    simp only [enter, hf, hf', hb, hb', bind, Except.bind]
  cases hentry : enter c known scope other with
  | error e => rw [resolveKnowing_of_error hentry, resolveKnowing_of_error (henter.trans hentry)]
  | ok entry =>
    cases entry with
    | known r =>
      rw [resolveKnowing_of_known hentry, resolveKnowing_of_known (henter.trans hentry)]
    | frame frame =>
      rw [resolveKnowing_of_frame hentry, resolveKnowing_of_frame (henter.trans hentry)]

/-- A memo as a run leaves it that started from the known one in the scope `base`:
what was known is still there, and of the calls that were not known it holds what
they resolve to in that scope. -/
structure Memo.Extends (c : Collection) (registry : Template.Registry) (memo known : Memo)
    (base : List String) : Prop where
  keeps : ∀ call r, known.recall c call = some r → memo.recall c call = some r
  learned : ∀ call r, memo.recall c call = some r → known.recall c call = none →
    resolveKnowing c registry known base call = .ok r

namespace Memo.Extends

variable {known memo : Memo} {base : List String}

/-- A run starts with what is known. -/
theorem refl (known : Memo) (base : List String) :
    known.Extends c registry known base where
  keeps _ _ h := h
  learned call r h h' := by rw [h] at h'; cases h'

/-- Where the memo holds nothing, nothing is known. -/
theorem recall_eq_none (h : memo.Extends c registry known base) {call : Call}
    (hcall : memo.recall c call = none) : known.recall c call = none := by
  cases hknown : known.recall c call with
  | none => rfl
  | some r => rw [h.keeps call r hknown] at hcall; cases hcall

/-- A run adds what a call resolves to in its scope. -/
theorem cons (h : memo.Extends c registry known base) {call : Call} {f : Function}
    {values : Template.Values} {r : Resolved}
    (hf : c.getFunction? call.function = some f)
    (hb : bindArguments f call.arguments = .ok values) (hknown : known.recall c call = none)
    (hr : resolveKnowing c registry known base call = .ok r) :
    Memo.Extends c registry (((f.name, values), r) :: memo) known base := by
  have hself : c.getFunction? f.name = some f := by rw [c.name_of_getFunction? hf]; exact hf
  constructor
  · intro other r' hother
    rw [recall_cons hself]
    split
    · next hsame =>
      rw [recall_of_bound hsame.1 hsame.2, ← recall_of_bound hf hb, hknown] at hother
      cases hother
    · exact h.keeps other r' hother
  · intro other r' hother hnew
    rw [recall_cons hself] at hother
    split at hother
    · next hsame =>
      cases hother
      rw [resolveKnowing_of_same_values hsame.1 hf hsame.2 hb]
      exact hr
    · exact h.learned other r' hother hnew

/-- A run from a sound memo leaves a sound one. -/
theorem sound (h : memo.Extends c registry known base) (hsound : known.Sound c registry) :
    memo.Sound c registry := by
  intro call r hcall
  cases hknown : known.recall c call with
  | none =>
    rw [← resolveKnowing_of_sound hsound]
    exact (resolveKnowing_eq_ok_iff.1 (h.learned call r hcall hknown)).1
  | some r' =>
    have hsame := h.keeps call r' hknown
    rw [hcall] at hsame
    cases hsame
    exact hsound call r hknown

end Memo.Extends

end Tweaks.Resolution
