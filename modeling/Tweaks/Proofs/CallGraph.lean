import Mathlib.Data.List.Chain
import Mathlib.Logic.Relation
import Tweaks.Collection

/-!
# The graph of calls

Which functions of a collection call which, read off the definitions and
regardless of arguments.

Main results:

- `transGen_of_isChain`: along a chain of calls every function leads to the last.
- `isChain_snoc`: a chain of calls goes on with a call of its last function.
- `isCycle_of_isChain`: a chain of calls that comes back to a function on it closes a
  cycle.
-/

namespace Tweaks.Collection

open Relation

/-- The definition of the function `caller` has a call of `callee`. -/
def Calls (c : Collection) (caller callee : String) : Prop :=
  ∃ f, c.getFunction? caller = some f ∧ ∃ call ∈ f.calls, call.function = callee

/-- Calls lead from one function to another, in any number of steps. -/
def Reaches (c : Collection) (source target : String) : Prop :=
  ReflTransGen c.Calls source target

/-- A call that a call may lead to, as it is written: the call itself, or one in the
definition of a function that it reaches. -/
def HasSite (c : Collection) (call site : Call) : Prop :=
  site = call ∨ ∃ caller f, c.Reaches call.function caller ∧
    c.getFunction? caller = some f ∧ site ∈ f.calls

/-- A way along calls from a function back to it, without going through any function
twice.  The function stands at both ends. -/
structure IsCycle (c : Collection) (cycle : List String) : Prop where
  two_le_length : 2 ≤ cycle.length
  head_eq_last : cycle.head? = cycle.getLast?
  nodup_dropLast : cycle.dropLast.Nodup
  isChain : cycle.IsChain c.Calls

/-- No function that can be reached leads back to itself. -/
def AcyclicFrom (c : Collection) (source : String) : Prop :=
  ∀ name, c.Reaches source name → ¬TransGen c.Calls name name

variable {c : Collection}

/-- Calls that are led to are of functions that are reached. -/
theorem HasSite.reaches {call site : Call} (h : c.HasSite call site) :
    c.Reaches call.function site.function := by
  rcases h with rfl | ⟨caller, f, hreach, hf, hsite⟩
  · exact .refl
  · exact .tail hreach ⟨f, hf, site, hsite, rfl⟩

/-- Along a chain of calls every function leads to the last. -/
theorem transGen_of_isChain {chain : List String} {last name : String}
    (h : (chain ++ [last]).IsChain c.Calls) (hname : name ∈ chain) :
    TransGen c.Calls name last := by
  induction chain generalizing name with
  | nil => cases hname
  | cons first rest ih =>
    rw [List.cons_append, List.isChain_cons] at h
    rcases List.mem_cons.1 hname with rfl | hname
    · cases rest with
      | nil => exact .single (h.1 last (by simp))
      | cons next rest => exact .head (h.1 next (by simp)) (ih h.2 (by simp))
    · exact ih h.2 hname

/-- A chain of calls goes on with a call of its last function. -/
theorem isChain_snoc {chain : List String} {last next : String}
    (h : (chain ++ [last]).IsChain c.Calls) (h' : c.Calls last next) :
    (chain ++ [last] ++ [next]).IsChain c.Calls := by
  rw [List.isChain_append]
  refine ⟨h, List.isChain_singleton next, ?_⟩
  intro x hx y hy
  simp only [List.getLast?_concat, Option.mem_def, Option.some.injEq] at hx
  simp only [List.head?_cons, Option.mem_def, Option.some.injEq] at hy
  subst hx hy
  exact h'

/-- Where calls lead from a function without cycles, none of the functions that a
chain of calls went through on the way there is met again. -/
theorem AcyclicFrom.not_mem_of_isChain {chain : List String} {last name : String}
    (h : c.AcyclicFrom last) (hchain : (chain ++ [last]).IsChain c.Calls)
    (hname : c.Reaches last name) : name ∉ chain := by
  intro hmem
  exact h last .refl (.trans_right hname (transGen_of_isChain hchain hmem))

/-- What is left of a list from the first place of a name on starts with that name. -/
theorem exists_dropWhile_ne {names : List String} {name : String} (h : name ∈ names) :
    ∃ before after, names = before ++ name :: after ∧
      names.dropWhile (· ≠ name) = name :: after := by
  obtain ⟨before, after, rfl, hbefore⟩ := List.eq_append_cons_of_mem h
  refine ⟨before, after, rfl, ?_⟩
  rw [List.dropWhile_append_of_pos]
  · simp
  · intro other hother
    exact decide_eq_true fun heq => hbefore (heq ▸ hother)

/-- A chain of calls that comes back to a function on it closes a cycle, from that
function on. -/
theorem isCycle_of_isChain {chain : List String} {name : String}
    (h : (chain ++ [name]).IsChain c.Calls) (hnodup : chain.Nodup) (hname : name ∈ chain) :
    c.IsCycle (chain.dropWhile (· ≠ name) ++ [name]) := by
  obtain ⟨before, after, hchain, hdrop⟩ := exists_dropWhile_ne hname
  rw [hdrop]
  rw [hchain, List.append_assoc] at h
  rw [hchain] at hnodup
  exact {
    two_le_length := by simp
    head_eq_last := by
      rw [List.getLast?_concat]
      rfl
    nodup_dropLast := by
      rw [List.dropLast_concat]
      exact (List.nodup_append.1 hnodup).2.1
    isChain := h.right_of_append }

/-- A cycle makes the functions on it lead back to themselves. -/
theorem IsCycle.transGen_head {cycle : List String} {first : String} (h : c.IsCycle cycle)
    (hfirst : cycle.head? = some first) : TransGen c.Calls first first := by
  obtain ⟨chain, rfl⟩ : ∃ chain, cycle = chain ++ [first] := by
    rw [h.head_eq_last] at hfirst
    exact ⟨_, (List.dropLast_append_getLast? first hfirst).symm⟩
  have hlength := h.two_le_length
  have hmem : first ∈ chain := by
    cases chain with
    | nil => simp at hlength
    | cons name rest => simp_all
  exact transGen_of_isChain h.isChain hmem

end Tweaks.Collection
