import Tweaks.Pipe
import Tweaks.Proofs.Failure
import Tweaks.Compilation

/-!
# Checks of loading that keep resolving safe

Decoding a collection checks that the arguments of calls inside functions are templates,
but keeps their text, which is read once more in the middle of resolving.  Before a
template is filled in it is checked that its parameters are declared.  So whatever memo
resolving starts from, be it one that no history of operations leaves, it ends with code
or with an error of resolving.  Compiling adds that selected names may not exist.

Main results:

- `fits_of_enter`, `Frame.Fits.add`, `Frame.Fits.take`: what holds of every frame.
- `proper_enter`, `proper_fillArguments`, `proper_finish`: each step of the machine.
- `proper_run`: the machine, by induction over its steps.
- `proper_resolveWith`: resolving a call with any memo.
- `answers_are_proper`: resolving and compiling, for all memos, scopes, calls and selections.
-/

namespace Tweaks

namespace Resolution

variable {c : Collection} {registry : Template.Registry}

/-- An answer is proper: a result, or an error of resolving. -/
inductive Proper {α : Type} : Except Failure α → Prop
  | ok (result : α) : Proper (.ok result)
  | error (e : ResolutionError) : Proper (.error (.error e))

/-- An answer is proper if it fails only with errors of resolving. -/
theorem proper_of_forall {α : Type} {answer : Except Failure α}
    (h : ∀ failure, answer = .error failure → ∃ e, failure = .error e) : Proper answer := by
  cases answer with
  | ok result => exact .ok result
  | error failure =>
    obtain ⟨e, rfl⟩ := h failure rfl
    exact .error e

/-- What breaks off with the failure of a proper answer is proper. -/
theorem Proper.error_of_eq {α β : Type} {answer : Except Failure α} (h : Proper answer)
    {failure : Failure} (he : answer = .error failure) :
    Proper (.error failure : Except Failure β) := by
  rw [he] at h
  cases h with
  | error e => exact .error e

/-- A proper answer is a result or an error of resolving. -/
theorem Proper.ok_or_error {α : Type} {answer : Except Failure α} (h : Proper answer) :
    (∃ result, answer = .ok result) ∨ ∃ e : ResolutionError, answer = .error (.error e) := by
  cases h with
  | ok result => exact .inl ⟨result, rfl⟩
  | error e => exact .inr ⟨e, rfl⟩

/-- What is wrong with a template of a function is an error of resolving. -/
theorem BadTemplate.exists_error {f : Function} {t : Template} {failure : Failure}
    (h : BadTemplate registry f t failure) : ∃ e, failure = .error e := by
  cases h with
  | undeclared => exact ⟨_, rfl⟩
  | pipe => exact ⟨_, rfl⟩

/-- What is wrong with the arguments of a call is an error of resolving. -/
theorem BadCall.exists_error {f : Function} {arguments : List (String × String)}
    {failure : Failure} (h : BadCall f arguments failure) : ∃ e, failure = .error e := by
  cases h with
  | unexpected => exact ⟨_, rfl⟩
  | missing => exact ⟨_, rfl⟩

/-! ## Frames -/

/-- A frame belongs to the collection: it has a value for each parameter of a function
there, and the calls still to be resolved are some of that function's. -/
structure Frame.Fits (c : Collection) (frame : Frame) : Prop where
  function_mem : frame.function ∈ c.functions
  names_eq : frame.values.map Prod.fst = frame.function.parameterNames
  pending_subset : frame.pending ⊆ frame.function.calls

/-- A result more changes nothing about that. -/
theorem Frame.Fits.add {frame : Frame} (h : frame.Fits c) (result : Resolved) :
    (frame.add result).Fits c where
  function_mem := h.function_mem
  names_eq := h.names_eq
  pending_subset := h.pending_subset

/-- Nor does a call less. -/
theorem Frame.Fits.take {frame : Frame} {site : Call} {pending : List Call} (h : frame.Fits c)
    (hpending : frame.pending = site :: pending) : (frame.take pending).Fits c where
  function_mem := h.function_mem
  names_eq := h.names_eq
  pending_subset := by
    have hall := h.pending_subset
    rw [hpending] at hall
    exact List.Subset.trans (List.subset_cons_self site pending) hall

/-- A frame that is entered belongs to the collection. -/
theorem fits_of_enter {memo : Memo} {scope : List String} {call : Call} {frame : Frame}
    (h : enter c memo scope call = .ok (.frame frame)) : frame.Fits c := by
  obtain ⟨hmem, -, -, hpending⟩ := frame_of_enter h
  refine ⟨hmem, ?_, hpending ▸ List.Subset.refl _⟩
  rw [enter] at h
  split at h
  · cases h
  · next f hf =>
    split at h
    · cases h
    · obtain ⟨values, hvalues, h⟩ := Stepwise.exists_of_bind_eq_ok h
      split at h
      · cases h
      · cases h
        exact names_of_bindArguments hvalues

/-! ## Steps -/

/-- Entering a call is proper. -/
theorem proper_enter (memo : Memo) (scope : List String) (call : Call) :
    Proper (enter c memo scope call) := by
  refine proper_of_forall ?_
  intro failure h
  rw [enter] at h
  split at h
  · cases h
    exact ⟨_, rfl⟩
  · split at h
    · cases h
      exact ⟨_, rfl⟩
    · rcases Stepwise.error_or_exists_of_bind_eq_error h with hbind | ⟨values, -, h⟩
      · exact (badCall_of_bindArguments hbind).exists_error
      · split at h <;> cases h

/-- The arguments of the next call are templates, so that filling them in is proper. -/
theorem proper_fillArguments (hloaded : c.Loaded) {frame : Frame} (hframe : frame.Fits c)
    {site : Call} (hsite : site ∈ frame.pending) :
    Proper (fillArguments registry frame.function frame.values site.arguments) := by
  refine proper_of_forall ?_
  intro failure h
  obtain ⟨argument, hmem, hbad⟩ := badTemplate_of_fillArguments hframe.names_eq h
  obtain ⟨t, ht⟩ := hloaded.arguments_parse _ hframe.function_mem site
    (hframe.pending_subset hsite) argument hmem
  rcases hbad with ⟨e, he, -⟩ | ⟨t', -, hbad⟩
  · rw [ht] at he
    cases he
  · exact hbad.exists_error

/-- Finishing a function is proper. -/
theorem proper_finish {frame : Frame} (hframe : frame.Fits c) :
    Proper (finish registry frame) := by
  refine proper_of_forall ?_
  intro failure h
  rw [finish] at h
  split at h
  · obtain ⟨t, -, hbad⟩ := exists_badTemplate_of_leaf hframe.names_eq h
    exact hbad.exists_error
  · cases h

/-! ## Runs -/

/-- The machine comes to a proper answer from any memo and any frames of the
collection. -/
theorem proper_run (hloaded : c.Loaded) (memo : Memo) {top : Frame} {below : List Frame}
    (htop : top.Fits c) (hbelow : ∀ frame ∈ below, frame.Fits c) :
    Proper (run c registry memo top below).1 := by
  fun_induction run c registry memo top below with
  | case1 memo top below hpending e he =>
    exact (proper_finish htop).error_of_eq he
  | case2 memo top hpending result hresult => exact .ok result
  | case3 memo top hpending result hresult memo' parent rest ih =>
    have hparent := hbelow parent List.mem_cons_self
    refine ih (hparent.add result) ?_
    intro frame hframe
    exact hbelow frame (List.mem_cons_of_mem parent hframe)
  | case4 memo top below site pending hpending e he =>
    have hsite : site ∈ top.pending := hpending ▸ List.mem_cons_self
    exact (proper_fillArguments hloaded htop hsite).error_of_eq he
  | case5 memo top below site pending hpending arguments harguments e he =>
    exact (proper_enter memo top.stack ⟨site.function, arguments⟩).error_of_eq he
  | case6 memo top below site pending hpending arguments harguments result hresult ih =>
    exact ih ((htop.take hpending).add result) hbelow
  | case7 memo top below site pending hpending arguments harguments child hchild ih =>
    refine ih (fits_of_enter hchild) ?_
    intro frame hframe
    rcases List.mem_cons.1 hframe with rfl | hframe
    · exact htop.take hpending
    · exact hbelow frame hframe

/-- A call comes to a proper answer from any memo and in any scope. -/
theorem proper_resolveWith (hloaded : c.Loaded) (memo : Memo) (scope : List String)
    (call : Call) : Proper (resolveWith c registry memo scope call).1 := by
  rw [resolveWith]
  split
  · next e he => exact (proper_enter memo scope call).error_of_eq he
  · next result hresult => exact .ok result
  · next frame hframe =>
    exact proper_run hloaded memo (fits_of_enter hframe) (by simp)

end Resolution

namespace Compilation

open Resolution

variable {c : Collection} {registry : Template.Registry}

/-- The calls of a script come to a proper answer. -/
theorem proper_resolveEach (hloaded : c.Loaded) (memo : Memo) (calls : List Call) :
    Proper (resolveEach c registry memo calls).1 := by
  induction calls generalizing memo with
  | nil => exact .ok []
  | cons call rest ih =>
    rw [resolveEach]
    split
    · next e memo' he =>
      exact (proper_resolveWith hloaded memo [] call).error_of_eq (congrArg Prod.fst he)
    · next first memo' hfirst =>
      split
      · next e memo'' he => exact (ih memo').error_of_eq (congrArg Prod.fst he)
      · next others memo'' hothers => exact .ok _

/-- A script comes to a proper answer. -/
theorem proper_resolveScript (hloaded : c.Loaded) (memo : Memo) (s : Script) :
    Proper (resolveScript c registry memo s).1 := by
  rw [resolveScript]
  split
  · exact .ok _
  · split
    · next e memo' he =>
      exact (proper_resolveEach hloaded memo s.calls).error_of_eq (congrArg Prod.fst he)
    · next results memo' hresults => exact .ok _

/-- Why a selection is not compiled in a direction: selected names do not exist, or a
script fails with an error of resolving. -/
inductive ProperError (direction : Direction) : CompileError → Prop
  | unknownScripts (names : List String) : ProperError direction (.unknownScripts names)
  | unknownCategories (names : List String) : ProperError direction (.unknownCategories names)
  | script (name : String) (cause : ResolutionError) :
      ProperError direction (.script name direction (.error cause))

/-- The selected scripts are resolved, or one of them fails with an error of resolving. -/
theorem properError_of_resolveScripts (hloaded : c.Loaded) (direction : Direction) (memo : Memo)
    {scripts : List Script} {e : CompileError}
    (h : (resolveScripts c registry direction memo scripts).1 = .error e) :
    ProperError direction e := by
  induction scripts generalizing memo with
  | nil => cases h
  | cons s rest ih =>
    rw [resolveScripts] at h
    split at h
    · next failure memo' hfailure =>
      cases h
      have hs : Proper (resolveScript c registry memo s).1 := proper_resolveScript hloaded memo s
      rw [hfailure] at hs
      cases hs with
      | error cause => exact .script s.name cause
    · next first memo' hfirst =>
      split at h
      · next e' memo'' he' =>
        cases h
        exact ih memo' (congrArg Prod.fst he')
      · cases h

/-- A selection compiles, or fails for one of those reasons. -/
theorem properError_of_compileWith (hloaded : c.Loaded) (memo : Memo) {s : Selection}
    {e : CompileError} (h : (compileWith c registry memo s).1 = .error e) :
    ProperError s.direction e := by
  rw [compileWith] at h
  split at h
  · next e' he' =>
    cases h
    rw [check] at he'
    split at he'
    · cases he'
    · cases he'
      exact .unknownCategories _
    · cases he'
      exact .unknownScripts _
  · split at h
    · next e' memo' he' =>
      cases h
      exact properError_of_resolveScripts hloaded s.direction memo (congrArg Prod.fst he')
    · cases h

/-- In a decoded collection, whatever the memo holds: a call in any scope comes to code or
to an error of resolving, and a selection to fragments, to names that do not exist, or to
a script that fails with an error of resolving. -/
theorem answers_are_proper {d : Document} {c : Collection}
    (h : Collection.ofDocument d = .ok c) (registry : Template.Registry) (memo : Memo) :
    (∀ scope call,
      (∃ r, (resolveWith c registry memo scope call).1 = .ok r) ∨
      ∃ e : ResolutionError, (resolveWith c registry memo scope call).1 = .error (.error e)) ∧
    ∀ s,
      (∃ fragments, (compileWith c registry memo s).1 = .ok fragments) ∨
      (∃ names, (compileWith c registry memo s).1 = .error (.unknownScripts names)) ∨
      (∃ names, (compileWith c registry memo s).1 = .error (.unknownCategories names)) ∨
      ∃ name, ∃ cause : ResolutionError,
        (compileWith c registry memo s).1 = .error (.script name s.direction (.error cause)) := by
  have hloaded := Decode.loaded_of_ofDocument h
  constructor
  · intro scope call
    exact (proper_resolveWith hloaded memo scope call).ok_or_error
  · intro s
    cases hanswer : (compileWith c registry memo s).1 with
    | ok fragments => exact .inl ⟨fragments, rfl⟩
    | error e =>
      cases properError_of_compileWith hloaded memo hanswer with
      | unknownScripts names => exact .inr (.inl ⟨names, rfl⟩)
      | unknownCategories names => exact .inr (.inr (.inl ⟨names, rfl⟩))
      | script name cause => exact .inr (.inr (.inr ⟨name, cause, rfl⟩))

/-- The greetings, without any pipe and with a memo that nothing could have left: a call of
the outer function, while the inner one is being resolved, comes to an error of resolving,
and undoing everything comes to fragments. -/
theorem greeting_answers_proper :
    Collection.ofDocument greetingDocument = .ok greeting ∧
    (∃ e : ResolutionError,
      (resolveWith greeting (fun _ => none) [(("Write", []), ⟨"", none⟩)] ["Write"]
        ⟨"Twice", [("word", "hi")]⟩).1 = .error (.error e)) ∧
    ∃ fragments, (compileWith greeting (fun _ => none) [(("Write", []), ⟨"", none⟩)]
      (.everything .revert)).1 = .ok fragments := by
  obtain ⟨hcalls, hselections⟩ := answers_are_proper ofDocument_greeting (fun _ => none)
    [(("Write", []), ⟨"", none⟩)]
  refine ⟨ofDocument_greeting, ?_, ?_⟩
  · have hcycle : (resolveWith greeting (fun _ => none) [(("Write", []), ⟨"", none⟩)] ["Write"]
        ⟨"Twice", [("word", "hi")]⟩).1 =
          .error (.error (.cyclicCall ["Write", "Twice", "Write"])) := by decide +kernel
    rcases hcalls ["Write"] ⟨"Twice", [("word", "hi")]⟩ with ⟨r, hr⟩ | herror
    · rw [hcycle] at hr
      cases hr
    · exact herror
  · have hundone : ((compileWith greeting (fun _ => none) [(("Write", []), ⟨"", none⟩)]
        (.everything .revert)).1).toOption.isSome := by decide +kernel
    rcases hselections (.everything .revert) with hfragments | ⟨names, hnames⟩ |
      ⟨names, hnames⟩ | ⟨name, cause, hcause⟩
    · exact hfragments
    · rw [hnames] at hundone
      cases hundone
    · rw [hnames] at hundone
      cases hundone
    · rw [hcause] at hundone
      cases hundone

end Compilation

end Tweaks
