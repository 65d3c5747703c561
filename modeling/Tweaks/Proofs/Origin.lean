import Mathlib.Data.List.Nodup
import Tweaks.Proofs.Failure
import Tweaks.Proofs.History
import Tweaks.Proofs.Knowing

/-!
# Where resolving fails

A call that cannot be resolved fails at a call that was reached on the way: at the call
itself or at one inside its function, and so on.  That call makes resolving fail by its
own doing, since everything before it resolves.

Resolving goes down along calls and remembers the functions it is in.  It breaks off
where it would enter one of them again, and what it reports then is a cycle of the graph
of calls.  Conversely no function on or before a cycle resolves, so that none goes
unnoticed.

Main results:

- `exists_origin_of_error`: what fails does so at a call that was reached.
- `Reached.isChain`, `Reached.nodup`: the functions on the way to a call that is reached
  call each other, and none of them twice.
- `Reached.reaches`: the function of a call that is reached, and those on the way to it,
  are reached in the graph of calls.
- `Reached.isCycle`, `isCycle_of_cyclicCall`: what is reported is a cycle that the call
  reaches.
- `resolveWith_detects_cycles`: both directions, behind any history of operations.
-/

namespace Tweaks

namespace Resolution

variable {c : Collection} {registry : Template.Registry}

/-! ## Calls that are reached -/

/-- A call's function is entered: it is found, it is not being resolved, and the call's
arguments are bound to its parameters. -/
structure Entered (c : Collection) (scope : List String) (call : Call) (f : Function)
    (values : Template.Values) : Prop where
  found : c.getFunction? call.function = some f
  fresh : call.function ∉ scope
  bound : bindArguments f call.arguments = .ok values

/-- Resolving a call gets to one inside its function: the function is entered, and the
calls before that one resolve. -/
structure GetsTo (c : Collection) (registry : Template.Registry) (scope : List String)
    (call : Call) (f : Function) (values : Template.Values) (site : Call) : Prop where
  entered : Entered c scope call f values
  before_resolve : ∃ before after results, f.calls = before ++ site :: after ∧
    resolveCalls c registry f values (scope ++ [call.function]) before = .ok results

/-- Resolving a call on its own reaches another one, while the functions of `scope` are
being resolved. -/
inductive Reached (c : Collection) (registry : Template.Registry) (start : Call) :
    List String → Call → Prop
  | start : Reached c registry start [] start
  | inside {scope : List String} {call site : Call} {f : Function}
      {values : Template.Values} {arguments : List (String × String)}
      (outer : Reached c registry start scope call)
      (getsTo : GetsTo c registry scope call f values site)
      (filled : fillArguments registry f values site.arguments = .ok arguments) :
      Reached c registry start (scope ++ [call.function]) ⟨site.function, arguments⟩

/-- A call that resolving gets to stands in the function. -/
theorem GetsTo.mem {scope : List String} {call site : Call} {f : Function}
    {values : Template.Values} (h : GetsTo c registry scope call f values site) :
    site ∈ f.calls := by
  obtain ⟨before, after, -, hcalls, -⟩ := h.before_resolve
  rw [hcalls]
  exact List.mem_append_right before List.mem_cons_self

namespace Reached

variable {start target : Call} {scope : List String}

/-- The functions on the way to a call call each other, and the last of them calls the
call's function. -/
theorem isChain (h : Reached c registry start scope target) :
    (scope ++ [target.function]).IsChain c.Calls := by
  induction h with
  | start => exact List.isChain_singleton _
  | inside outer getsTo filled ih =>
    exact Collection.isChain_snoc ih ⟨_, getsTo.entered.found, _, getsTo.mem, rfl⟩

/-- No function is on the way to a call twice. -/
theorem nodup (h : Reached c registry start scope target) : scope.Nodup := by
  induction h with
  | start => exact List.nodup_nil
  | inside outer getsTo filled ih =>
    exact List.nodup_append.2 ⟨ih, List.nodup_singleton _, fun name hname other hother heq =>
      getsTo.entered.fresh (List.mem_singleton.1 hother ▸ heq ▸ hname)⟩

/-- Only functions are entered that the first one reaches. -/
theorem reaches (h : Reached c registry start scope target) :
    (∀ name ∈ scope, c.Reaches start.function name) ∧
      c.Reaches start.function target.function := by
  induction h with
  | start => exact ⟨by simp, .refl⟩
  | @inside scope call site f _ _ outer getsTo _ ih =>
    obtain ⟨hscope, hcall⟩ := ih
    constructor
    · intro name hname
      rcases List.mem_append.1 hname with hname | hname
      · exact hscope name hname
      · rw [List.mem_singleton.1 hname]
        exact hcall
    · exact .tail hcall ⟨f, getsTo.entered.found, site, getsTo.mem, rfl⟩

end Reached

/-! ## Failing at a call -/

/-- Resolving fails at a call, and not at one inside its function. -/
inductive FailsAt (c : Collection) (registry : Template.Registry) (scope : List String)
    (call : Call) : Failure → Prop
  /-- The function does not exist. -/
  | unknown (missing : c.getFunction? call.function = none) :
      FailsAt c registry scope call (.error (.unknownFunction call.function))
  /-- The function is being resolved already. -/
  | cycle (entered : call.function ∈ scope) :
      FailsAt c registry scope call (.error (.cyclicCall (cycleFrom scope call.function)))
  /-- The arguments do not fit the parameters. -/
  | binding {f : Function} {failure : Failure}
      (found : c.getFunction? call.function = some f)
      (fails : bindArguments f call.arguments = .error failure) :
      FailsAt c registry scope call failure
  /-- The arguments of a call inside the function cannot be filled in. -/
  | argument {f : Function} {values : Template.Values} {site : Call} {failure : Failure}
      (getsTo : GetsTo c registry scope call f values site)
      (fails : fillArguments registry f values site.arguments = .error failure) :
      FailsAt c registry scope call failure
  /-- The function's own templates cannot be filled in. -/
  | body {f : Function} {values : Template.Values} {failure : Failure}
      (entered : Entered c scope call f values)
      (fails : leaf registry f values = .error failure) :
      FailsAt c registry scope call failure

/-- Calls inside a function fail at a first one: its arguments cannot be filled in, or it
does not resolve. -/
theorem exists_site_of_resolveCalls_error {f : Function} {values : Template.Values}
    {scope : List String} {calls : List Call} {failure : Failure}
    (h : resolveCalls c registry f values scope calls = .error failure) :
    ∃ before site after results, calls = before ++ site :: after ∧
      resolveCalls c registry f values scope before = .ok results ∧
        (fillArguments registry f values site.arguments = .error failure ∨
          ∃ arguments, fillArguments registry f values site.arguments = .ok arguments ∧
            resolve c registry scope ⟨site.function, arguments⟩ = .error failure) := by
  induction calls with
  | nil => rw [resolveCalls] at h; cases h
  | cons site rest ih =>
    have hnone : resolveCalls c registry f values scope [] = .ok [] := by rw [resolveCalls]
    simp only [resolveCalls, bind, Except.bind, pure, Except.pure] at h
    split at h
    · next e ha =>
      cases h
      exact ⟨[], site, rest, [], rfl, hnone, .inl ha⟩
    · next arguments ha =>
      split at h
      · next e hsite =>
        cases h
        exact ⟨[], site, rest, [], rfl, hnone, .inr ⟨arguments, ha, hsite⟩⟩
      · next first hsite =>
        split at h
        · next e hrest =>
          cases h
          obtain ⟨before, other, after, results, rfl, hbefore, hother⟩ := ih hrest
          refine ⟨site :: before, other, after, first :: results, rfl, ?_, hother⟩
          simp only [resolveCalls, ha, hsite, hbefore, bind, Except.bind, pure, Except.pure]
        · cases h

/-- What fails does so at a call that was reached. -/
theorem exists_origin_of_error {start call : Call} {scope : List String} {failure : Failure}
    (hreached : Reached c registry start scope call)
    (h : resolve c registry scope call = .error failure) :
    ∃ scope' target, Reached c registry start scope' target ∧
      FailsAt c registry scope' target failure := by
  induction scope, call using entering_induction (c := c) with
  | step scope call ih =>
    cases hf : c.getFunction? call.function with
    | none =>
      rw [resolve_of_unknown hf] at h
      cases h
      exact ⟨scope, call, hreached, .unknown hf⟩
    | some f =>
      by_cases hscope : call.function ∈ scope
      · have hname := c.name_of_getFunction? hf
        rw [resolve_of_cycle hf (hname.symm ▸ hscope), hname] at h
        cases h
        exact ⟨scope, call, hreached, .cycle hscope⟩
      · rw [resolve_of_entered hf hscope] at h
        simp only [bind, Except.bind, pure, Except.pure] at h
        split at h
        · next e hb =>
          cases h
          exact ⟨scope, call, hreached, .binding hf hb⟩
        · next values hb =>
          have hentered : Entered c scope call f values := ⟨hf, hscope, hb⟩
          split at h
          · exact ⟨scope, call, hreached, .body hentered h⟩
          · split at h
            · next e hcalls =>
              cases h
              obtain ⟨before, site, after, results, hsplit, hbefore, hsite⟩ :=
                exists_site_of_resolveCalls_error hcalls
              have hgets : GetsTo c registry scope call f values site :=
                ⟨hentered, before, after, results, hsplit, hbefore⟩
              rcases hsite with ha | ⟨arguments, ha, hinner⟩
              · exact ⟨scope, call, hreached, .argument hgets ha⟩
              · exact ih f hf hscope _ (.inside hreached hgets ha) hinner
            · cases h

/-! ## Cycles -/

/-- The functions of a reported cycle start with the one that was entered again. -/
theorem head?_cycleFrom {scope : List String} {name : String} (h : name ∈ scope) :
    (cycleFrom scope name).head? = some name := by
  obtain ⟨-, after, -, hdrop⟩ := Collection.exists_dropWhile_ne h
  rw [cycleFrom, hdrop]
  rfl

/-- A cycle is reported only of a function that is being resolved. -/
theorem FailsAt.eq_cycleFrom {scope cycle : List String} {call : Call}
    (h : FailsAt c registry scope call (.error (.cyclicCall cycle))) :
    call.function ∈ scope ∧ cycle = cycleFrom scope call.function := by
  cases h with
  | cycle entered => exact ⟨entered, rfl⟩
  | binding found fails => cases badCall_of_bindArguments fails
  | argument getsTo fails =>
    have hnames := names_of_bindArguments getsTo.entered.bound
    obtain ⟨-, -, ⟨e, -, he⟩ | ⟨t, -, hbad⟩⟩ := badTemplate_of_fillArguments hnames fails
    · cases he
    · cases hbad
  | body entered fails =>
    obtain ⟨t, -, hbad⟩ := exists_badTemplate_of_leaf (names_of_bindArguments entered.bound) fails
    cases hbad

/-- A call that is reached, of a function that is being resolved, closes a cycle. -/
theorem Reached.isCycle {start target : Call} {scope : List String}
    (h : Reached c registry start scope target) (hscope : target.function ∈ scope) :
    c.IsCycle (cycleFrom scope target.function) ∧
      ∃ first, (cycleFrom scope target.function).head? = some first ∧
        c.Reaches start.function first :=
  ⟨Collection.isCycle_of_isChain h.isChain h.nodup hscope,
    target.function, head?_cycleFrom hscope, h.reaches.2⟩

/-- A cycle that is reported is one, and the call reaches it. -/
theorem isCycle_of_cyclicCall {call : Call} {cycle : List String}
    (h : resolve c registry [] call = .error (.error (.cyclicCall cycle))) :
    c.IsCycle cycle ∧ ∃ first, cycle.head? = some first ∧ c.Reaches call.function first := by
  obtain ⟨scope, target, hreached, hfails⟩ := exists_origin_of_error .start h
  obtain ⟨hscope, rfl⟩ := hfails.eq_cycleFrom
  exact hreached.isCycle hscope

end Resolution

namespace Compilation

open Resolution

/-- Whatever was done with the memo before: a call returns code only if no cycle of calls
can be reached from its function, and a cycle that is reported is one that can be. -/
theorem resolveWith_detects_cycles (c : Collection) (registry : Template.Registry)
    (history : List Operation) (call : Call) :
    (∀ r, (resolveWith c registry (memoAfter c registry history) [] call).1 = .ok r →
      c.AcyclicFrom call.function) ∧
    ∀ cycle, (resolveWith c registry (memoAfter c registry history) [] call).1 =
        .error (.error (.cyclicCall cycle)) →
      c.IsCycle cycle ∧ ∃ first, cycle.head? = some first ∧ c.Reaches call.function first := by
  rw [fst_resolveWith_memoAfter]
  constructor
  · intro r h
    rw [← resolveKnowing_nil] at h
    exact acyclicFrom_of_resolves h
  · intro cycle h
    exact isCycle_of_cyclicCall h

end Compilation

end Tweaks
