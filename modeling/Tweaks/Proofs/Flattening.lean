import Tweaks.Pipe
import Tweaks.Proofs.History
import Tweaks.Proofs.Joining
import Tweaks.Proofs.Loading

/-!
# Flat code

A call expands into calls of functions that have code of their own: its leaves.  How the
calls are grouped into functions on the way leaves no trace, since putting codes together
that were put together before is putting all of them together at once.  So the code of a
call is made of the leaves' codes, line by line and in their order, and so is the code
that undoes it.

Main results:

- `Expands.append`, `Expands.unique`: the leaves of calls, and that there are no others.
- `expandsTo_of_resolve`: a call that resolves comes to the codes of its leaves.
- `flat_code_of_resolves`: the code of calls and of scripts, behind any history of
  operations.
-/

namespace Tweaks

namespace Resolution

open Stepwise

variable {c : Collection} {registry : Template.Registry}

/-! ## Leaves -/

/-- A function with code of its own, with the values of its parameters. -/
structure Leaf where
  function : Function
  values : Template.Values
deriving DecidableEq, Repr

/-- The codes of a leaf. -/
def Leaf.resolved (registry : Template.Registry) (l : Leaf) : Except Failure Resolved :=
  leaf registry l.function l.values

/-- The text of one of a leaf's templates, with all its breaks.  It is empty where the
function has no such template. -/
def Leaf.text (registry : Template.Registry) (part : Function → Option Template)
    (l : Leaf) : Except Failure String :=
  match part l.function with
  | none => .ok ""
  | some t => fill registry l.function l.values t

/-- The code of a leaf is its text, trimmed. -/
theorem leafCode_eq (registry : Template.Registry) (f : Function)
    (values : Template.Values) :
    leafCode registry f values =
      (Leaf.text registry Function.code ⟨f, values⟩).map Text.trim := by
  rw [leafCode, Leaf.text]
  cases f.code with
  | none => rw [Except.map, Text.trim_empty]
  | some t => rfl

/-- The code that undoes a leaf is its text, trimmed, unless nothing is left of it. -/
theorem leafRevertCode_eq (registry : Template.Registry) (f : Function)
    (values : Template.Values) :
    leafRevertCode registry f values =
      (Leaf.text registry Function.revertCode ⟨f, values⟩).map fun text =>
        filled? (Text.trim text) := by
  rw [leafRevertCode, Leaf.text]
  cases f.revertCode with
  | none => rw [Except.map, Text.trim_empty, filled?_eq_none_iff.2 rfl]
  | some t => rfl

/-- The codes of a leaf are its texts, trimmed. -/
theorem leaf_eq (registry : Template.Registry) (f : Function) (values : Template.Values) :
    leaf registry f values = (do
      let code ← Leaf.text registry Function.code ⟨f, values⟩
      let revert ← Leaf.text registry Function.revertCode ⟨f, values⟩
      return ⟨Text.trim code, filled? (Text.trim revert)⟩) := by
  simp only [leaf, leafCode_eq, leafRevertCode_eq, map_bind]

/-- A leaf that has codes has texts. -/
theorem exists_texts_of_leaf {f : Function} {values : Template.Values} {r : Resolved}
    (h : leaf registry f values = .ok r) :
    ∃ code revert, Leaf.text registry Function.code ⟨f, values⟩ = .ok code ∧
      Leaf.text registry Function.revertCode ⟨f, values⟩ = .ok revert ∧
        r = ⟨Text.trim code, filled? (Text.trim revert)⟩ := by
  rw [leaf_eq] at h
  obtain ⟨code, hcode, h⟩ := exists_of_bind_eq_ok h
  obtain ⟨revert, hrevert, h⟩ := exists_of_bind_eq_ok h
  exact ⟨code, revert, hcode, hrevert, (Except.ok.inj h).symm⟩

/-- The codes of a leaf stay as they are when they are put together. -/
theorem merge_leaf {f : Function} {values : Template.Values} {r : Resolved}
    (h : leaf registry f values = .ok r) : merge [r] = r := by
  obtain ⟨code, revert, -, -, rfl⟩ := exists_texts_of_leaf h
  rw [merge_singleton, filter_filled?]

/-- A call inside a function, with its arguments filled in. -/
def fillCall (registry : Template.Registry) (f : Function) (values : Template.Values)
    (site : Call) : Except Failure Call :=
  (fillArguments registry f values site.arguments).map (Call.mk site.function)

/-- Calls expand into leaves, depth first: a call of a function with code of its own is a
leaf, and in the place of any other stand the calls inside its function. -/
inductive Expands (c : Collection) (registry : Template.Registry) :
    List Call → List Leaf → Prop
  | nil : Expands c registry [] []
  | leaf {call : Call} {rest : List Call} {f : Function} {values : Template.Values}
      {t : Template} {leaves : List Leaf}
      (found : c.getFunction? call.function = some f)
      (bound : bindArguments f call.arguments = .ok values) (own : f.code = some t)
      (others : Expands c registry rest leaves) :
      Expands c registry (call :: rest) (⟨f, values⟩ :: leaves)
  | inner {call : Call} {rest inside : List Call} {f : Function} {values : Template.Values}
      {leaves : List Leaf}
      (found : c.getFunction? call.function = some f)
      (bound : bindArguments f call.arguments = .ok values) (own : f.code = none)
      (filled : f.calls.mapM (fillCall registry f values) = .ok inside)
      (others : Expands c registry (inside ++ rest) leaves) :
      Expands c registry (call :: rest) leaves

namespace Expands

/-- The leaves of some calls and of others are those of all of them. -/
theorem append {calls others : List Call} {leaves more : List Leaf}
    (h : Expands c registry calls leaves) (h' : Expands c registry others more) :
    Expands c registry (calls ++ others) (leaves ++ more) := by
  induction h with
  | nil => exact h'
  | leaf found bound own _ ih => exact .leaf found bound own ih
  | inner found bound own filled _ ih =>
    rw [List.append_assoc] at ih
    exact .inner found bound own filled ih

/-- Calls expand in only one way. -/
theorem unique {calls : List Call} {leaves others : List Leaf}
    (h : Expands c registry calls leaves) (h' : Expands c registry calls others) :
    leaves = others := by
  induction h generalizing others with
  | nil => cases h'; rfl
  | leaf found bound own _ ih =>
    cases h' with
    | leaf found' bound' _ rest' =>
      cases found.symm.trans found'
      cases bound.symm.trans bound'
      rw [ih rest']
    | inner found' _ own' _ _ =>
      cases found.symm.trans found'
      cases own.symm.trans own'
  | inner found bound own filled _ ih =>
    cases h' with
    | leaf found' _ own' _ =>
      cases found.symm.trans found'
      cases own.symm.trans own'
    | inner found' bound' _ filled' rest' =>
      cases found.symm.trans found'
      cases bound.symm.trans bound'
      cases filled.symm.trans filled'
      exact ih rest'

/-- The leaves that calls expand into are the only ones. -/
theorem eq_iff {calls : List Call} {leaves : List Leaf} (h : Expands c registry calls leaves)
    (others : List Leaf) : Expands c registry calls others ↔ others = leaves := by
  constructor
  · intro h'
    exact h'.unique h
  · rintro rfl
    exact h

end Expands

/-! ## The codes of the leaves -/

/-- Calls expand into leaves with the given codes. -/
def ExpandsTo (c : Collection) (registry : Template.Registry) (calls : List Call)
    (codes : List Resolved) : Prop :=
  ∃ leaves, Expands c registry calls leaves ∧
    leaves.map (Leaf.resolved registry) = codes.map .ok

/-- The codes of some calls and of others are those of all of them. -/
theorem ExpandsTo.append {calls others : List Call} {codes more : List Resolved}
    (h : ExpandsTo c registry calls codes) (h' : ExpandsTo c registry others more) :
    ExpandsTo c registry (calls ++ others) (codes ++ more) := by
  obtain ⟨leaves, hleaves, hcodes⟩ := h
  obtain ⟨rest, hrest, hmore⟩ := h'
  refine ⟨leaves ++ rest, hleaves.append hrest, ?_⟩
  rw [List.map_append, hcodes, hmore, List.map_append]

/-- The calls inside a function that resolve do so with their arguments filled in. -/
theorem exists_of_resolveCalls {f : Function} {values : Template.Values}
    {scope : List String} {calls : List Call} {results : List Resolved}
    (h : resolveCalls c registry f values scope calls = .ok results) :
    ∃ inside, calls.mapM (fillCall registry f values) = .ok inside ∧
      inside.mapM (resolve c registry scope) = .ok results := by
  induction calls generalizing results with
  | nil =>
    rw [resolveCalls] at h
    cases h
    exact ⟨[], rfl, rfl⟩
  | cons site rest ih =>
    rw [resolveCalls] at h
    obtain ⟨arguments, ha, h⟩ := exists_of_bind_eq_ok h
    obtain ⟨first, hfirst, h⟩ := exists_of_bind_eq_ok h
    obtain ⟨others, hothers, h⟩ := exists_of_bind_eq_ok h
    cases h
    obtain ⟨inside, hinside, hresults⟩ := ih hothers
    refine ⟨⟨site.function, arguments⟩ :: inside, ?_, ?_⟩
    · rw [mapM_cons, fillCall, ha, hinside]
      rfl
    · rw [mapM_cons, hfirst, hresults]
      rfl

/-- Calls that resolve come to the codes of their leaves, if each of them does. -/
theorem expandsTo_of_mapM {scope : List String} {calls : List Call} {results : List Resolved}
    (hcalls : ∀ call r, resolve c registry scope call = .ok r →
      ∃ codes, ExpandsTo c registry [call] codes ∧ r = merge codes)
    (h : calls.mapM (resolve c registry scope) = .ok results) :
    ∃ codes, ExpandsTo c registry calls codes ∧ merge results = merge codes := by
  induction calls generalizing results with
  | nil => cases h; exact ⟨[], ⟨[], .nil, rfl⟩, rfl⟩
  | cons call rest ih =>
    rw [mapM_cons] at h
    split at h
    · cases h
    · next first hfirst =>
      obtain ⟨others, hothers, rfl⟩ := exists_of_map_eq_ok h
      obtain ⟨codes, hcodes, rfl⟩ := hcalls call first hfirst
      obtain ⟨more, hmore, hmerge⟩ := ih hothers
      refine ⟨codes ++ more, hcodes.append hmore, ?_⟩
      calc merge (merge codes :: others)
          = merge [merge [merge codes], merge others] := merge_append [merge codes] others
        _ = merge [merge codes, merge more] := by rw [merge_merge, hmerge]
        _ = merge (codes ++ more) := (merge_append codes more).symm

/-- In a decoded collection, a call that resolves comes to the codes of its leaves. -/
theorem expandsTo_of_resolve (hloaded : c.Loaded) {scope : List String} {call : Call}
    {r : Resolved} (h : resolve c registry scope call = .ok r) :
    ∃ codes, ExpandsTo c registry [call] codes ∧ r = merge codes := by
  -- The induction is on the functions that are left to enter.
  induction scope, call using entering_induction (c := c) generalizing r with
  | step scope call ih =>
    cases hf : c.getFunction? call.function with
    | none => rw [resolve_of_unknown hf] at h; cases h
    | some f =>
      have hmem := c.mem_of_getFunction? hf
      by_cases hscope : call.function ∈ scope
      · have hname := c.name_of_getFunction? hf
        rw [resolve_of_cycle hf (hname.symm ▸ hscope)] at h
        cases h
      rw [resolve_of_entered hf hscope] at h
      obtain ⟨values, hb, h⟩ := exists_of_bind_eq_ok h
      split at h
      · next hcalls =>
        obtain ⟨t, ht⟩ := (hloaded.calls_or_code f hmem).1 (List.isEmpty_iff.1 hcalls)
        refine ⟨[r], ⟨[⟨f, values⟩], .leaf hf hb ht .nil, ?_⟩, (merge_leaf h).symm⟩
        rw [List.map_singleton, List.map_singleton, Leaf.resolved, h]
      · next hcalls =>
        obtain ⟨results, hresults, h⟩ := exists_of_bind_eq_ok h
        cases h
        have hnone := hloaded.code_eq_none hmem (mt List.isEmpty_iff.2 hcalls)
        obtain ⟨inside, hinside, hresults⟩ := exists_of_resolveCalls hresults
        obtain ⟨codes, ⟨leaves, hleaves, hcodes⟩, hmerge⟩ :=
          expandsTo_of_mapM (fun inner _ hinner => ih f hf hscope inner hinner) hresults
        refine ⟨codes, ⟨leaves, .inner hf hb hnone hinside ?_, hcodes⟩, hmerge⟩
        rw [List.append_nil]
        exact hleaves

/-! ## The texts of the leaves -/

/-- Codes are flat: the trimmed texts of the leaves' templates that are not empty, line by
line.  The code that undoes them is there if there is anything to it. -/
structure IsFlat (registry : Template.Registry) (leaves : List Leaf) (r : Resolved) :
    Prop where
  code : ∃ texts : List String,
    leaves.map (Leaf.text registry Function.code) = texts.map .ok ∧
      r.code = joinLines (texts.map Text.trim)
  revertCode : ∃ texts : List String,
    leaves.map (Leaf.text registry Function.revertCode) = texts.map .ok ∧
      r.revertCode.getD "" = joinLines (texts.map Text.trim) ∧
        (r.revertCode = none ↔ ∀ text ∈ texts, Text.trim text = "")

/-- The codes of leaves are their texts, trimmed. -/
theorem exists_texts_of_leaves {leaves : List Leaf} {codes : List Resolved}
    (h : leaves.map (Leaf.resolved registry) = codes.map .ok) :
    ∃ texts reverts : List String,
      leaves.map (Leaf.text registry Function.code) = texts.map .ok ∧
        leaves.map (Leaf.text registry Function.revertCode) = reverts.map .ok ∧
          codes.map Resolved.code = texts.map Text.trim ∧
            codes.filterMap Resolved.revertCode =
              reverts.filterMap fun text => filled? (Text.trim text) := by
  induction leaves generalizing codes with
  | nil =>
    rw [List.map_nil, eq_comm, List.map_eq_nil_iff] at h
    exact ⟨[], [], rfl, rfl, by rw [h]; rfl, by rw [h]; rfl⟩
  | cons l leaves ih =>
    cases codes with
    | nil => cases h
    | cons r codes =>
      obtain ⟨hr, hcodes⟩ := List.cons.inj h
      obtain ⟨text, revert, htext, hrevert, rfl⟩ := exists_texts_of_leaf hr
      obtain ⟨texts, reverts, htexts, hreverts, hcode, hrevertCode⟩ := ih hcodes
      refine ⟨text :: texts, revert :: reverts, ?_, ?_, ?_, ?_⟩
      · rw [List.map_cons, htext, htexts, List.map_cons]
      · rw [List.map_cons, hrevert, hreverts, List.map_cons]
      · rw [List.map_cons, hcode, List.map_cons]
      · rw [List.filterMap_cons, hrevertCode, List.filterMap_cons]

/-- Codes that are put together from those of leaves are flat. -/
theorem isFlat_merge {leaves : List Leaf} {codes : List Resolved}
    (h : leaves.map (Leaf.resolved registry) = codes.map .ok) :
    IsFlat registry leaves (merge codes) := by
  obtain ⟨texts, reverts, htexts, hreverts, hcode, hrevert⟩ := exists_texts_of_leaves h
  have hjoin : joinLines (codes.filterMap Resolved.revertCode) =
      joinLines (reverts.map Text.trim) := by
    rw [hrevert, joinLines_filterMap_filled?]
  rw [merge_eq, hjoin, hcode]
  refine ⟨⟨texts, htexts, rfl⟩, ⟨reverts, hreverts, getD_filled? _, ?_⟩⟩
  rw [filled?_eq_none_iff, joinLines_eq_empty_iff, nonEmpty, List.filter_eq_nil_iff]
  simp

end Resolution

namespace Compilation

open Resolution

/-- Whatever was done with the memo before, a call that resolves and a script with calls
that resolve have flat code, made of the leaves into which the calls expand.  It does not
matter how they are grouped, since codes that are put together in groups come to the same
as all at once. -/
theorem flat_code_of_resolves {d : Document} {c : Collection}
    (h : Collection.ofDocument d = .ok c) (registry : Template.Registry)
    (history : List Operation) :
    (∀ call r, (resolveWith c registry (memoAfter c registry history) [] call).1 = .ok r →
      ∃ leaves, (∀ others, Expands c registry [call] others ↔ others = leaves) ∧
        IsFlat registry leaves r) ∧
    (∀ s r, s.calls ≠ [] →
      (resolveScript c registry (memoAfter c registry history) s).1 = .ok r →
        ∃ leaves, (∀ others, Expands c registry s.calls others ↔ others = leaves) ∧
          IsFlat registry leaves r) ∧
    ∀ groups : List (List Resolved), merge (groups.map merge) = merge groups.flatten := by
  have hloaded := Decode.loaded_of_ofDocument h
  refine ⟨?_, ?_, merge_map_merge⟩
  · intro call r hr
    rw [fst_resolveWith_memoAfter] at hr
    obtain ⟨codes, ⟨leaves, hleaves, hcodes⟩, rfl⟩ := expandsTo_of_resolve hloaded hr
    exact ⟨leaves, hleaves.eq_iff, isFlat_merge hcodes⟩
  · intro s r hcalls hr
    obtain ⟨memo, -, hscript⟩ := exists_resolveScript (sound_memoAfter c registry history) s
    rw [hscript, scriptCode, if_neg (by simpa using hcalls)] at hr
    obtain ⟨results, hresults, rfl⟩ := Stepwise.exists_of_map_eq_ok hr
    obtain ⟨codes, ⟨leaves, hleaves, hcodes⟩, hmerge⟩ :=
      expandsTo_of_mapM (fun _ _ => expandsTo_of_resolve hloaded) hresults
    rw [hmerge]
    exact ⟨leaves, hleaves.eq_iff, isFlat_merge hcodes⟩

/-- A call of the outer function of the greetings, and the script with one. -/
theorem greeting_flat_code :
    (∃ leaves,
      (∀ others, Expands greeting Pipe.standard [⟨"Twice", [("word", "hi")]⟩] others ↔
        others = leaves) ∧
      IsFlat Pipe.standard leaves ⟨"echo hi\necho <hi> # hi", some "drop <hi>"⟩) ∧
    ∃ leaves,
      (∀ others, Expands greeting Pipe.standard [⟨"Twice", [("word", "hello")]⟩] others ↔
        others = leaves) ∧
      IsFlat Pipe.standard leaves
        ⟨"echo hello\necho <hello> # hello", some "drop <hello>"⟩ := by
  obtain ⟨hcall, hscript, -⟩ := flat_code_of_resolves ofDocument_greeting Pipe.standard []
  constructor
  · exact hcall ⟨"Twice", [("word", "hi")]⟩ _ (by decide +kernel)
  · exact hscript ⟨"Greet", none, none, [⟨"Twice", [("word", "hello")]⟩], none, []⟩ _
      (List.cons_ne_nil _ _) (by decide +kernel)

end Compilation

end Tweaks
