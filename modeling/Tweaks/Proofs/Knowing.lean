import Mathlib.Logic.Relation
import Tweaks.Proofs.CallGraph
import Tweaks.Resolution.Machine

/-!
# Resolving with knowledge

Resolving a call by recursion, as without a memo, but taking for granted what a
given memo holds.  The memo stays the same throughout.  With an empty memo this
is plain resolving; with any other one it is what the machine does that starts
from that memo.

Main results:

- `resolveKnowing_nil`: knowing nothing is plain resolving.
- `exists_resolves_of_asks`: where a call resolves, so does all it asks for, with
  more functions being resolved.
- `acyclicFrom_of_resolves`: what resolves on its own meets no cycle.
- `resolveKnowing_scope`: a call that resolves does so in every scope that names
  none of the functions it asks for.
-/

namespace Tweaks.Resolution

open Relation

variable {c : Collection} {registry : Template.Registry}

/-! ## What entering a call comes to -/

/-- What a memo holds for a call: for its function with the values it binds. -/
def Memo.recall (memo : Memo) (c : Collection) (call : Call) : Option Resolved := do
  let f ← c.getFunction? call.function
  let values ← (bindArguments f call.arguments).toOption
  memo.find? f.name values

@[simp]
theorem Memo.recall_nil (c : Collection) (call : Call) : Memo.recall [] c call = none := by
  simp [Memo.recall, Memo.find?]

/-- A call is known where the memo holds it and its function is not being
resolved. -/
theorem enter_eq_known {memo : Memo} {scope : List String} {call : Call} {r : Resolved} :
    enter c memo scope call = .ok (.known r) ↔
      call.function ∉ scope ∧ memo.recall c call = some r := by
  cases hf : c.getFunction? call.function with
  | none => simp [enter, Memo.recall, hf]
  | some f =>
    have hname := c.name_of_getFunction? hf
    cases hb : bindArguments f call.arguments with
    | error e =>
      by_cases hs : call.function ∈ scope <;>
        simp [enter, Memo.recall, hf, hb, hname, hs, bind, Except.bind, Except.toOption]
    | ok values =>
      cases hm : memo.find? call.function values <;> by_cases hs : call.function ∈ scope <;>
        simp [enter, Memo.recall, hf, hb, hname, hs, hm, bind, Except.bind, Except.toOption,
          pure, Except.pure]

/-- The frame for a call: its function, found and not being resolved, with values
for which the memo holds nothing. -/
theorem enter_eq_frame {memo : Memo} {scope : List String} {call : Call} {frame : Frame} :
    enter c memo scope call = .ok (.frame frame) ↔
      ∃ f values, c.getFunction? call.function = some f ∧ call.function ∉ scope ∧
        bindArguments f call.arguments = .ok values ∧ memo.recall c call = none ∧
        frame = ⟨f, values, scope ++ [call.function], f.calls, []⟩ := by
  cases hf : c.getFunction? call.function with
  | none => simp [enter, hf]
  | some f =>
    have hname := c.name_of_getFunction? hf
    cases hb : bindArguments f call.arguments with
    | error e =>
      by_cases hs : call.function ∈ scope <;>
        simp [enter, hf, hb, hname, hs, bind, Except.bind]
    | ok values =>
      cases hm : memo.find? call.function values <;> by_cases hs : call.function ∈ scope <;>
        simp [enter, Memo.recall, hf, hb, hname, hs, hm, bind, Except.bind, Except.toOption,
          pure, Except.pure, eq_comm]

/-- Whether a call can be entered at all does not depend on the memo. -/
theorem enter_eq_error {memo memo' : Memo} {scope : List String} {call : Call} {e : Failure}
    (h : enter c memo scope call = .error e) : enter c memo' scope call = .error e := by
  simp only [enter, bind, Except.bind, pure, Except.pure] at h ⊢
  split at h
  · exact h
  · split at h
    · next hs => simpa [hs] using h
    · next hs =>
      simp only [hs, ↓reduceIte]
      split at h
      · exact h
      · split at h <;> cases h

/-- The frame for a call needs nothing but an empty place in the memo and a scope
without the function. -/
theorem enter_frame_of_recall {memo memo' : Memo} {scope scope' : List String} {call : Call}
    {frame : Frame} (h : enter c memo scope call = .ok (.frame frame))
    (hscope : call.function ∉ scope') (hmemo : memo'.recall c call = none) :
    enter c memo' scope' call =
      .ok (.frame { frame with stack := scope' ++ [call.function] }) := by
  obtain ⟨f, values, hf, -, hb, -, rfl⟩ := enter_eq_frame.1 h
  exact enter_eq_frame.2 ⟨f, values, hf, hscope, hb, hmemo, rfl⟩

/-! ## The recursion -/

/-- A frame with all its calls resolved. -/
def Frame.complete (frame : Frame) (results : List Resolved) : Frame :=
  { frame with pending := [], results := results.reverse }

mutual

/-- The codes of a call, while the functions of `scope` are being resolved, taking
for granted what the memo holds. -/
def resolveKnowing (c : Collection) (registry : Template.Registry) (known : Memo)
    (scope : List String) (call : Call) : Except Failure Resolved :=
  match _h : enter c known scope call with
  | .error e => .error e
  | .ok (.known result) => .ok result
  | .ok (.frame frame) =>
    match resolveCallsKnowing c registry known frame.function frame.values frame.stack
        frame.function.calls with
    | .error e => .error e
    | .ok results => finish registry (frame.complete results)
termination_by (unvisited c scope, 0)
decreasing_by
  obtain ⟨hmem, hnot, hstack, -⟩ := frame_of_enter _h
  rw [hstack]
  exact Prod.Lex.left _ _ (unvisited_snoc_lt hmem hnot)

/-- The codes of calls inside a function, in order, taking for granted what the
memo holds. -/
def resolveCallsKnowing (c : Collection) (registry : Template.Registry) (known : Memo)
    (f : Function) (values : Template.Values) (scope : List String) (calls : List Call) :
    Except Failure (List Resolved) :=
  match calls with
  | [] => .ok []
  | site :: rest =>
    match fillArguments registry f values site.arguments with
    | .error e => .error e
    | .ok arguments =>
      match resolveKnowing c registry known scope ⟨site.function, arguments⟩ with
      | .error e => .error e
      | .ok first =>
        match resolveCallsKnowing c registry known f values scope rest with
        | .error e => .error e
        | .ok others => .ok (first :: others)
termination_by (unvisited c scope, calls.length)

end

/-- Calls are proved things about by entering them: what holds of a call may be
used for every call while its function is being resolved too. -/
theorem entering_induction {motive : List String → Call → Prop}
    (step : ∀ scope call,
      (∀ f, c.getFunction? call.function = some f → call.function ∉ scope →
        ∀ inner, motive (scope ++ [call.function]) inner) → motive scope call)
    (scope : List String) (call : Call) : motive scope call := by
  induction hn : unvisited c scope using Nat.strong_induction_on generalizing scope call with
  | _ n ih =>
    apply step
    intro f hf hscope inner
    have hname := c.name_of_getFunction? hf
    have hlt := unvisited_snoc_lt (c.mem_of_getFunction? hf) (hname ▸ hscope)
    rw [hname, hn] at hlt
    exact ih _ hlt _ inner rfl

theorem resolveKnowing_of_error {known : Memo} {scope : List String} {call : Call}
    {e : Failure} (h : enter c known scope call = .error e) :
    resolveKnowing c registry known scope call = .error e := by
  rw [resolveKnowing]
  split <;> simp_all

theorem resolveKnowing_of_known {known : Memo} {scope : List String} {call : Call}
    {r : Resolved} (h : enter c known scope call = .ok (.known r)) :
    resolveKnowing c registry known scope call = .ok r := by
  rw [resolveKnowing]
  split <;> simp_all

theorem resolveKnowing_of_frame {known : Memo} {scope : List String} {call : Call}
    {frame : Frame} (h : enter c known scope call = .ok (.frame frame)) :
    resolveKnowing c registry known scope call =
      match resolveCallsKnowing c registry known frame.function frame.values frame.stack
          frame.function.calls with
      | .error e => .error e
      | .ok results => finish registry (frame.complete results) := by
  rw [resolveKnowing]
  split <;> simp_all

/-- Calls with the same answers give the same list of codes. -/
theorem resolveCallsKnowing_congr {known known' : Memo} {f : Function}
    {values : Template.Values} {scope scope' : List String} {calls : List Call}
    (h : ∀ site ∈ calls, ∀ arguments,
      fillArguments registry f values site.arguments = .ok arguments →
        resolveKnowing c registry known scope ⟨site.function, arguments⟩ =
          resolveKnowing c registry known' scope' ⟨site.function, arguments⟩) :
    resolveCallsKnowing c registry known f values scope calls =
      resolveCallsKnowing c registry known' f values scope' calls := by
  induction calls with
  | nil => simp only [resolveCallsKnowing]
  | cons site rest ih =>
    have hrest := ih fun other hother => h other (List.mem_cons_of_mem _ hother)
    simp only [resolveCallsKnowing, hrest]
    cases ha : fillArguments registry f values site.arguments with
    | error e => rfl
    | ok arguments => simp only [h site List.mem_cons_self arguments ha]

/-- Where the calls of a function resolve, each of them does. -/
theorem exists_ok_of_resolveCallsKnowing {known : Memo} {f : Function}
    {values : Template.Values} {scope : List String} {calls : List Call}
    {results : List Resolved}
    (h : resolveCallsKnowing c registry known f values scope calls = .ok results) :
    ∀ site ∈ calls, ∃ arguments r,
      fillArguments registry f values site.arguments = .ok arguments ∧
        resolveKnowing c registry known scope ⟨site.function, arguments⟩ = .ok r := by
  induction calls generalizing results with
  | nil => simp
  | cons site rest ih =>
    rw [resolveCallsKnowing] at h
    split at h
    · cases h
    · next arguments ha =>
      split at h
      · cases h
      · next first hfirst =>
        split at h
        · cases h
        · next others hothers =>
          intro other hother
          rcases List.mem_cons.1 hother with rfl | hother
          · exact ⟨arguments, first, ha, hfirst⟩
          · exact ih hothers other hother

/-! ## Knowing nothing -/

/-- A call of a function that is found and not being resolved: its arguments are
bound, and then its own templates are filled in or its calls resolved. -/
theorem resolve_of_entered {scope : List String} {call : Call} {f : Function}
    (hf : c.getFunction? call.function = some f) (hscope : call.function ∉ scope) :
    resolve c registry scope call = (do
      let values ← bindArguments f call.arguments
      if f.calls.isEmpty then leaf registry f values
      else
        let results ← resolveCalls c registry f values (scope ++ [call.function]) f.calls
        return merge results) := by
  have hname := c.name_of_getFunction? hf
  rw [resolve]
  split
  · simp_all
  · next g hg =>
    obtain rfl : f = g := by simpa [hf] using hg
    simp [hname, hscope]

/-- Calls with the same answers give the same list of codes. -/
theorem resolveCallsKnowing_nil_of_forall {f : Function} {values : Template.Values}
    {scope : List String}
    (h : ∀ call, resolveKnowing c registry [] scope call = resolve c registry scope call)
    (calls : List Call) :
    resolveCallsKnowing c registry [] f values scope calls =
      resolveCalls c registry f values scope calls := by
  induction calls with
  | nil => simp only [resolveCallsKnowing, resolveCalls]
  | cons site rest ih =>
    rw [resolveCallsKnowing, resolveCalls, ih]
    cases fillArguments registry f values site.arguments with
    | error e => rfl
    | ok arguments =>
      simp only [h, bind, Except.bind, pure, Except.pure]
      cases resolve c registry scope ⟨site.function, arguments⟩ with
      | error e => rfl
      | ok first => cases resolveCalls c registry f values scope rest <;> rfl

/-- Knowing nothing is plain resolving. -/
theorem resolveKnowing_nil (scope : List String) (call : Call) :
    resolveKnowing c registry [] scope call = resolve c registry scope call := by
  induction scope, call using entering_induction (c := c) with
  | step scope call ih =>
    cases hf : c.getFunction? call.function with
    | none =>
      rw [resolve_of_unknown hf, resolveKnowing_of_error]
      simp [enter, hf]
    | some f =>
      have hname := c.name_of_getFunction? hf
      by_cases hscope : call.function ∈ scope
      · rw [resolve_of_cycle hf (hname.symm ▸ hscope), resolveKnowing_of_error]
        simp [enter, hf, hname, hscope]
      · rw [resolve_of_entered hf hscope]
        cases hb : bindArguments f call.arguments with
        | error e =>
          rw [resolveKnowing_of_error (e := e)]
          · rfl
          · simp [enter, hf, hname, hscope, hb, bind, Except.bind]
        | ok values =>
          have henter := enter_eq_frame.2
            ⟨f, values, hf, hscope, hb, Memo.recall_nil c call, rfl⟩
          rw [resolveKnowing_of_frame henter]
          simp only [resolveCallsKnowing_nil_of_forall (ih f hf hscope)]
          simp only [bind, Except.bind, pure, Except.pure]
          by_cases hcalls : f.calls = []
          · simp [hcalls, resolveCalls, finish, Frame.complete]
          · cases resolveCalls c registry f values (scope ++ [call.function]) f.calls with
            | error e => simp [hcalls]
            | ok results => simp [hcalls, finish, Frame.complete]

/-! ## What a call asks for -/

/-- Resolving a call asks for the codes of another one: the memo holds nothing for
the call, and the other one stands in the definition of its function, with the
arguments filled in. -/
def Asks (c : Collection) (registry : Template.Registry) (memo : Memo)
    (call inner : Call) : Prop :=
  ∃ f values, c.getFunction? call.function = some f ∧
    bindArguments f call.arguments = .ok values ∧ memo.recall c call = none ∧
      ∃ site ∈ f.calls, site.function = inner.function ∧
        fillArguments registry f values site.arguments = .ok inner.arguments

/-- One call asks for another in any number of steps. -/
def Needs (c : Collection) (registry : Template.Registry) (memo : Memo) :
    Call → Call → Prop :=
  ReflTransGen (Asks c registry memo)

/-- A call asks only for functions that its own function calls. -/
theorem calls_of_asks {memo : Memo} {call inner : Call} (h : Asks c registry memo call inner) :
    c.Calls call.function inner.function := by
  obtain ⟨f, -, hf, -, -, site, hsite, hname, -⟩ := h
  exact ⟨f, hf, site, hsite, hname⟩

/-- A call needs only functions that its own function reaches. -/
theorem reaches_of_needs {memo : Memo} {call target : Call}
    (h : Needs c registry memo call target) : c.Reaches call.function target.function := by
  induction h with
  | refl => exact .refl
  | tail _ hasks ih => exact .tail ih (calls_of_asks hasks)

/-- A call that resolves is none of a function being resolved. -/
theorem not_mem_of_resolves {known : Memo} {scope : List String} {call : Call} {r : Resolved}
    (h : resolveKnowing c registry known scope call = .ok r) : call.function ∉ scope := by
  cases henter : enter c known scope call with
  | error e => rw [resolveKnowing_of_error henter] at h; cases h
  | ok entry =>
    cases entry with
    | known result => exact (enter_eq_known.1 henter).1
    | frame frame =>
      obtain ⟨-, -, -, hscope, -⟩ := enter_eq_frame.1 henter
      exact hscope

/-- A call that resolves and is not known is entered, and all calls of its function
resolve. -/
theorem exists_results_of_resolves {known : Memo} {scope : List String} {call : Call}
    {r : Resolved} (h : resolveKnowing c registry known scope call = .ok r)
    (hknown : known.recall c call = none) :
    ∃ f values results, c.getFunction? call.function = some f ∧
      bindArguments f call.arguments = .ok values ∧
        resolveCallsKnowing c registry known f values (scope ++ [call.function]) f.calls =
          .ok results := by
  cases henter : enter c known scope call with
  | error e => rw [resolveKnowing_of_error henter] at h; cases h
  | ok entry =>
    cases entry with
    | known result => rw [(enter_eq_known.1 henter).2] at hknown; cases hknown
    | frame frame =>
      obtain ⟨f, values, hf, -, hb, -, rfl⟩ := enter_eq_frame.1 henter
      rw [resolveKnowing_of_frame henter] at h
      dsimp only at h
      split at h
      · cases h
      · next results hresults => exact ⟨f, values, results, hf, hb, hresults⟩

/-- Where a call resolves, so does what it asks for, with one function more being
resolved. -/
theorem exists_resolves_of_asks {known : Memo} {scope : List String} {call inner : Call}
    {r : Resolved} (h : resolveKnowing c registry known scope call = .ok r)
    (hasks : Asks c registry known call inner) :
    ∃ r', resolveKnowing c registry known (scope ++ [call.function]) inner = .ok r' := by
  obtain ⟨f, values, hf, hb, hknown, site, hsite, hname, ha⟩ := hasks
  obtain ⟨g, others, results, hg, hb', hresults⟩ := exists_results_of_resolves h hknown
  obtain rfl : f = g := by simpa [hf] using hg
  obtain rfl : values = others := by simpa [hb] using hb'
  obtain ⟨arguments, r', ha', hr'⟩ := exists_ok_of_resolveCallsKnowing hresults site hsite
  obtain rfl : inner.arguments = arguments := by simpa [ha] using ha'
  rw [hname] at hr'
  exact ⟨r', hr'⟩

/-- A call that resolves and is not known asks for every function that its own
function calls. -/
theorem exists_asks_of_calls {known : Memo} {scope : List String} {call : Call}
    {name : String} {r : Resolved} (h : resolveKnowing c registry known scope call = .ok r)
    (hknown : known.recall c call = none) (hcalls : c.Calls call.function name) :
    ∃ inner, Asks c registry known call inner ∧ inner.function = name := by
  obtain ⟨f, values, results, hf, hb, hresults⟩ := exists_results_of_resolves h hknown
  obtain ⟨g, hg, site, hsite, rfl⟩ := hcalls
  obtain rfl : f = g := by simpa [hf] using hg
  obtain ⟨arguments, r', ha, -⟩ := exists_ok_of_resolveCallsKnowing hresults site hsite
  exact ⟨⟨site.function, arguments⟩, ⟨f, values, hf, hb, hknown, site, hsite, rfl, ha⟩, rfl⟩

/-- Where a call resolves, so does all it needs, with more functions being
resolved. -/
theorem exists_resolves_of_needs {known : Memo} {scope : List String} {call target : Call}
    {r : Resolved} (h : resolveKnowing c registry known scope call = .ok r)
    (hneeds : Needs c registry known call target) :
    ∃ scope' r', scope ⊆ scope' ∧
      resolveKnowing c registry known scope' target = .ok r' := by
  induction hneeds with
  | refl => exact ⟨scope, r, List.Subset.refl scope, h⟩
  | @tail middle last _ hasks ih =>
    obtain ⟨scope', r', hsub, hr'⟩ := ih
    obtain ⟨r'', hr''⟩ := exists_resolves_of_asks hr' hasks
    exact ⟨scope' ++ [middle.function], r'', List.subset_append_of_subset_left _ hsub, hr''⟩

/-- A call that resolves needs none of the functions being resolved. -/
theorem not_mem_of_needs {known : Memo} {scope : List String} {call target : Call}
    {r : Resolved} (h : resolveKnowing c registry known scope call = .ok r)
    (hneeds : Needs c registry known call target) : target.function ∉ scope := by
  obtain ⟨scope', r', hsub, hr'⟩ := exists_resolves_of_needs h hneeds
  exact fun hmem => not_mem_of_resolves hr' (hsub hmem)

/-- Where nothing is known, a call that resolves needs every function that its own
function reaches. -/
theorem exists_needs_of_reaches {scope : List String} {call : Call} {name : String}
    {r : Resolved} (h : resolveKnowing c registry [] scope call = .ok r)
    (hreach : c.Reaches call.function name) :
    ∃ target, Needs c registry [] call target ∧ target.function = name := by
  induction hreach with
  | refl => exact ⟨call, .refl, rfl⟩
  | tail _ hcalls ih =>
    obtain ⟨middle, hneeds, rfl⟩ := ih
    obtain ⟨scope', r', -, hr'⟩ := exists_resolves_of_needs h hneeds
    obtain ⟨inner, hasks, hname⟩ := exists_asks_of_calls hr' (Memo.recall_nil c middle) hcalls
    exact ⟨inner, .tail hneeds hasks, hname⟩

/-- What resolves meets no cycle. -/
theorem acyclicFrom_of_resolves {scope : List String} {call : Call} {r : Resolved}
    (h : resolveKnowing c registry [] scope call = .ok r) : c.AcyclicFrom call.function := by
  intro name hreach hcycle
  obtain ⟨next, hcalls, hback⟩ := TransGen.head'_iff.1 hcycle
  obtain ⟨target, hneeds, rfl⟩ := exists_needs_of_reaches h hreach
  obtain ⟨scope', r', -, hr'⟩ := exists_resolves_of_needs h hneeds
  obtain ⟨inner, hasks, rfl⟩ := exists_asks_of_calls hr' (Memo.recall_nil c target) hcalls
  obtain ⟨r'', hr''⟩ := exists_resolves_of_asks hr' hasks
  -- The calls lead back to the function, which is being resolved by now.
  obtain ⟨again, hagain, hname⟩ := exists_needs_of_reaches hr'' hback
  exact not_mem_of_needs hr'' hagain (by simp [hname])

/-! ## The scope of a call that resolves -/

/-- A call that resolves does so in every scope that names nothing it needs. -/
theorem resolveKnowing_scope {known : Memo} {scope scope' : List String} {call : Call}
    {r : Resolved} (h : resolveKnowing c registry known scope call = .ok r)
    (hscope : ∀ target, Needs c registry known call target → target.function ∉ scope') :
    resolveKnowing c registry known scope' call = .ok r := by
  induction scope, call using entering_induction (c := c) generalizing scope' r with
  | step scope call ih =>
    have hcall : call.function ∉ scope' := hscope call .refl
    cases henter : enter c known scope call with
    | error e => rw [resolveKnowing_of_error henter] at h; cases h
    | ok entry =>
      cases entry with
      | known result =>
        rw [resolveKnowing_of_known henter] at h
        rw [← h]
        exact resolveKnowing_of_known
          (enter_eq_known.2 ⟨hcall, (enter_eq_known.1 henter).2⟩)
      | frame frame =>
        obtain ⟨f, values, hf, hs, hb, hknown, rfl⟩ := enter_eq_frame.1 henter
        rw [resolveKnowing_of_frame henter] at h
        rw [resolveKnowing_of_frame (enter_frame_of_recall henter hcall hknown)]
        dsimp only at h ⊢
        split at h
        · cases h
        · next results hresults =>
          have hsame : resolveCallsKnowing c registry known f values (scope ++ [call.function])
              f.calls = resolveCallsKnowing c registry known f values
                (scope' ++ [call.function]) f.calls := by
            apply resolveCallsKnowing_congr
            intro site hsite arguments ha
            obtain ⟨others, r', ha', hr'⟩ := exists_ok_of_resolveCallsKnowing hresults site hsite
            obtain rfl : arguments = others := by simpa [ha] using ha'
            have hasks : Asks c registry known call ⟨site.function, arguments⟩ :=
              ⟨f, values, hf, hb, hknown, site, hsite, rfl, ha⟩
            rw [hr']
            refine (ih f hf hs ⟨site.function, arguments⟩ hr' ?_).symm
            intro target hneeds hmem
            rcases List.mem_append.1 hmem with hmem | hmem
            · exact hscope target (.head hasks hneeds) hmem
            · exact not_mem_of_needs hr' hneeds (List.mem_append_right _ hmem)
          rw [← hsame, hresults]
          exact h

/-- Exactly when a call resolves in a scope: it does on its own, and the scope
names nothing that it needs. -/
theorem resolveKnowing_eq_ok_iff {known : Memo} {scope : List String} {call : Call}
    {r : Resolved} :
    resolveKnowing c registry known scope call = .ok r ↔
      resolveKnowing c registry known [] call = .ok r ∧
        ∀ target, Needs c registry known call target → target.function ∉ scope := by
  constructor
  · intro h
    exact ⟨resolveKnowing_scope h fun _ _ => List.not_mem_nil,
      fun target hneeds => not_mem_of_needs h hneeds⟩
  · rintro ⟨h, hscope⟩
    exact resolveKnowing_scope h hscope

/-- A call that resolves on its own does so behind every chain of calls that leads
to it, in a scope that its function does not reach. -/
theorem resolveKnowing_of_isChain {base chain : List String} {call : Call} {r : Resolved}
    (h : resolveKnowing c registry [] [] call = .ok r)
    (hchain : (chain ++ [call.function]).IsChain c.Calls)
    (hbase : ∀ name ∈ base, ¬c.Reaches call.function name) :
    resolveKnowing c registry [] (base ++ chain) call = .ok r := by
  refine resolveKnowing_scope h fun target hneeds hmem => ?_
  have hreach := reaches_of_needs hneeds
  rcases List.mem_append.1 hmem with hmem | hmem
  · exact hbase _ hmem hreach
  · exact (acyclicFrom_of_resolves h).not_mem_of_isChain hchain hreach hmem

end Tweaks.Resolution
