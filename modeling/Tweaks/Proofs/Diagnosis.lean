import Tweaks.Pipe
import Tweaks.Proofs.Origin

/-!
# Errors and what is wrong

An error of resolving says what is wrong and where.  Whenever a call in a decoded
collection fails, it does so with an error, and what the error says is true of the
collection, the registry and the call.  Where nothing of the kind is wrong, the call
resolves, unless a text that was filled in for a required parameter turns out empty.

Main results:

- `Reached.exists_site`: a call that is reached is one as written, with its arguments
  filled in.
- `exists_justified_of_error`: no failure without a true reason.
- `exists_ok_or_empty_of_consistent`: where everything fits together, only empty texts
  make a call fail.
- `resolveWith_error_justified`: both, behind any history of operations.
-/

namespace Tweaks

namespace Resolution

variable {c : Collection} {registry : Template.Registry}

/-- What has to be wrong for an error. -/
inductive Justified (c : Collection) (registry : Template.Registry) (call : Call) :
    ResolutionError → Prop
  /-- A call is led to whose function does not exist. -/
  | unknownFunction {site : Call} (written : c.HasSite call site)
      (missing : c.getFunction? site.function = none) :
      Justified c registry call (.unknownFunction site.function)
  /-- A call is led to that passes a parameter which its function does not declare. -/
  | unexpectedArgument {site : Call} {f : Function} {name : String}
      (written : c.HasSite call site) (found : c.getFunction? site.function = some f)
      (passed : name ∈ site.arguments.map Prod.fst) (missing : name ∉ f.parameterNames) :
      Justified c registry call (.unexpectedArgument site.function name)
  /-- A call is reached that passes nothing or the empty text to a required parameter. -/
  | missingArgument {scope : List String} {target : Call} {f : Function} {p : Parameter}
      (reached : Reached c registry call scope target)
      (found : c.getFunction? target.function = some f) (declared : p ∈ f.parameters)
      (required : p.required)
      (empty : target.arguments.lookup p.name = none ∨
        target.arguments.lookup p.name = some "") :
      Justified c registry call (.missingArgument target.function p.name)
  /-- A template of a function that is reached refers to a parameter which the function
  does not declare. -/
  | undeclaredParameter {function name : String} {f : Function} {t : Template}
      (reached : c.Reaches call.function function) (found : c.getFunction? function = some f)
      (template : f.HasTemplate t) (used : name ∈ t.names)
      (missing : name ∉ f.parameterNames) :
      Justified c registry call (.undeclaredParameter function name)
  /-- A template of a function that is reached uses a pipe which the registry lacks. -/
  | unknownPipe {function pipe : String} {f : Function} {t : Template}
      (reached : c.Reaches call.function function) (found : c.getFunction? function = some f)
      (template : f.HasTemplate t) (used : pipe ∈ t.pipeNames)
      (missing : registry pipe = none) :
      Justified c registry call (.unknownPipe pipe function)
  /-- A cycle is reached. -/
  | cyclicCall {cycle : List String} {first : String} (isCycle : c.IsCycle cycle)
      (head : cycle.head? = some first) (reached : c.Reaches call.function first) :
      Justified c registry call (.cyclicCall cycle)

/-- Everything that a call leads to fits together: functions exist and do not call
themselves, calls pass the required parameters and none that are not declared, and
templates use declared parameters and known pipes. -/
structure Consistent (c : Collection) (registry : Template.Registry) (call : Call) :
    Prop where
  defined : ∀ name, c.Reaches call.function name → ∃ f, c.getFunction? name = some f
  acyclic : c.AcyclicFrom call.function
  passes_declared : ∀ site f, c.HasSite call site → c.getFunction? site.function = some f →
    ∀ name ∈ site.arguments.map Prod.fst, name ∈ f.parameterNames
  passes_required : ∀ site f, c.HasSite call site → c.getFunction? site.function = some f →
    ∀ p ∈ f.parameters, p.required → p.name ∈ site.arguments.map Prod.fst
  uses_declared : ∀ name f t, c.Reaches call.function name → c.getFunction? name = some f →
    f.HasTemplate t → ∀ parameter ∈ t.names, parameter ∈ f.parameterNames
  uses_known : ∀ name f t, c.Reaches call.function name → c.getFunction? name = some f →
    f.HasTemplate t → ∀ pipe ∈ t.pipeNames, ∃ g, registry pipe = some g

/-- A call that is reached passes the empty text to a required parameter. -/
def PassesEmpty (c : Collection) (registry : Template.Registry) (call target : Call)
    (p : Parameter) : Prop :=
  ∃ scope f, Reached c registry call scope target ∧ c.getFunction? target.function = some f ∧
    p ∈ f.parameters ∧ p.required ∧ target.arguments.lookup p.name = some ""

/-- A call that is reached is one as written, with its arguments filled in. -/
theorem Reached.exists_site {start target : Call} {scope : List String}
    (h : Reached c registry start scope target) :
    ∃ site, c.HasSite start site ∧ site.function = target.function ∧
      site.arguments.map Prod.fst = target.arguments.map Prod.fst := by
  cases h with
  | start => exact ⟨start, .inl rfl, rfl, rfl⟩
  | inside outer getsTo filled =>
    refine ⟨_, .inr ⟨_, _, outer.reaches.2, getsTo.entered.found, getsTo.mem⟩, rfl, ?_⟩
    exact (names_of_fillArguments filled).symm

/-- Where a template of a function that is reached is wrong, the error is justified. -/
theorem justified_of_badTemplate {call target : Call} {scope : List String} {f : Function}
    {t : Template} {failure : Failure} (hreached : Reached c registry call scope target)
    (hf : c.getFunction? target.function = some f) (ht : f.HasTemplate t)
    (hbad : BadTemplate registry f t failure) :
    ∃ e, failure = .error e ∧ Justified c registry call e := by
  have hname := c.name_of_getFunction? hf
  have hreaches := hreached.reaches.2
  cases hbad with
  | undeclared used missing =>
    rw [hname]
    exact ⟨_, rfl, .undeclaredParameter hreaches hf ht used missing⟩
  | pipe used missing =>
    rw [hname]
    exact ⟨_, rfl, .unknownPipe hreaches hf ht used missing⟩

/-- Where a call that is reached fails, the error is justified. -/
theorem justified_of_failsAt (hloaded : c.Loaded) {call target : Call} {scope : List String}
    {failure : Failure} (hreached : Reached c registry call scope target)
    (hfails : FailsAt c registry scope target failure) :
    ∃ e, failure = .error e ∧ Justified c registry call e := by
  obtain ⟨site, hsite, hfunction, harguments⟩ := hreached.exists_site
  cases hfails with
  | unknown missing =>
    rw [← hfunction] at missing ⊢
    exact ⟨_, rfl, .unknownFunction hsite missing⟩
  | cycle entered =>
    obtain ⟨hcycle, first, hfirst, hreaches⟩ := hreached.isCycle entered
    exact ⟨_, rfl, .cyclicCall hcycle hfirst hreaches⟩
  | binding found fails =>
    have hname := c.name_of_getFunction? found
    cases badCall_of_bindArguments fails with
    | unexpected passed missing =>
      rw [hname, ← hfunction]
      rw [← hfunction] at found
      rw [← harguments] at passed
      exact ⟨_, rfl, .unexpectedArgument hsite found passed missing⟩
    | missing declared required empty =>
      rw [hname]
      exact ⟨_, rfl, .missingArgument hreached found declared required empty⟩
  | argument getsTo fails =>
    have hnames := names_of_bindArguments getsTo.entered.bound
    obtain ⟨argument, hmem, hbad⟩ := badTemplate_of_fillArguments hnames fails
    have hf := c.mem_of_getFunction? getsTo.entered.found
    obtain ⟨t, ht⟩ := hloaded.arguments_parse _ hf _ getsTo.mem argument hmem
    rcases hbad with ⟨e, he, -⟩ | ⟨t', ht', hbad⟩
    · rw [ht] at he
      cases he
    · exact justified_of_badTemplate hreached getsTo.entered.found
        (.argument getsTo.mem hmem ht') hbad
  | body entered fails =>
    obtain ⟨t, ht, hbad⟩ := exists_badTemplate_of_leaf (names_of_bindArguments entered.bound) fails
    exact justified_of_badTemplate hreached entered.found ht hbad

/-- In a decoded collection a call fails only with an error, and what the error says is
wrong. -/
theorem exists_justified_of_error (hloaded : c.Loaded) {call : Call} {failure : Failure}
    (h : resolve c registry [] call = .error failure) :
    ∃ e, failure = .error e ∧ Justified c registry call e := by
  obtain ⟨scope, target, hreached, hfails⟩ := exists_origin_of_error .start h
  exact justified_of_failsAt hloaded hreached hfails

/-- Where everything fits together, only the empty text for a required parameter justifies
an error. -/
theorem Consistent.passesEmpty_of_justified {call : Call} {e : ResolutionError}
    (h : Consistent c registry call) (he : Justified c registry call e) :
    ∃ target p, PassesEmpty c registry call target p ∧
      e = .missingArgument target.function p.name := by
  cases he with
  | unknownFunction written missing =>
    obtain ⟨f, hf⟩ := h.defined _ written.reaches
    rw [missing] at hf
    cases hf
  | unexpectedArgument written found passed missing =>
    exact absurd (h.passes_declared _ _ written found _ passed) missing
  | @missingArgument scope target f p reached found declared required empty =>
    obtain ⟨site, hsite, hfunction, harguments⟩ := reached.exists_site
    rw [← hfunction] at found
    have hpassed := h.passes_required site f hsite found p declared required
    rw [hfunction] at found
    rcases empty with hnone | hempty
    · rw [harguments] at hpassed
      exact absurd hpassed (lookup_eq_none_iff_not_mem.1 hnone)
    · exact ⟨target, p, ⟨scope, f, reached, found, declared, required, hempty⟩, rfl⟩
  | undeclaredParameter reached found template used missing =>
    exact absurd (h.uses_declared _ _ _ reached found template _ used) missing
  | unknownPipe reached found template used missing =>
    obtain ⟨g, hg⟩ := h.uses_known _ _ _ reached found template _ used
    rw [missing] at hg
    cases hg
  | cyclicCall isCycle head reached =>
    exact absurd (isCycle.transGen_head head) (h.acyclic _ reached)

/-- Where everything fits together, a call resolves, or one that is reached passes the
empty text to a required parameter. -/
theorem exists_ok_or_empty_of_consistent (hloaded : c.Loaded) {call : Call}
    (h : Consistent c registry call) :
    (∃ r, resolve c registry [] call = .ok r) ∨
      ∃ target p, PassesEmpty c registry call target p ∧
        resolve c registry [] call =
          .error (.error (.missingArgument target.function p.name)) := by
  cases hanswer : resolve c registry [] call with
  | ok r => exact .inl ⟨r, rfl⟩
  | error failure =>
    obtain ⟨e, rfl, he⟩ := exists_justified_of_error hloaded hanswer
    obtain ⟨target, p, hempty, rfl⟩ := h.passesEmpty_of_justified he
    exact .inr ⟨target, p, hempty, rfl⟩

end Resolution

namespace Compilation

open Resolution

variable {c : Collection} {registry : Template.Registry}

/-- In a decoded collection a script has no code for a reason that can be mended. -/
theorem exists_error_of_scriptCode (hloaded : c.Loaded) {s : Script} {failure : Failure}
    (h : scriptCode c registry s = .error failure) : ∃ e, failure = .error e := by
  rw [scriptCode] at h
  split at h
  · cases h
  · have hcalls := Stepwise.eq_error_of_map_eq_error h
    obtain ⟨-, call, -, -, -, hcall⟩ := Stepwise.exists_first_of_mapM_eq_error hcalls
    obtain ⟨e, he, -⟩ := exists_justified_of_error hloaded hcall
    exact ⟨e, he⟩

/-- Whatever was done with the memo before, a call in a decoded collection fails only with
an error, and what the error says is wrong.  Where everything fits together, the call
resolves, or it fails since a call that is reached passes the empty text to a required
parameter. -/
theorem resolveWith_error_justified {d : Document} {c : Collection}
    (h : Collection.ofDocument d = .ok c) (registry : Template.Registry)
    (history : List Operation) (call : Call) :
    (∀ failure,
      (resolveWith c registry (memoAfter c registry history) [] call).1 = .error failure →
        ∃ e, failure = .error e ∧ Justified c registry call e) ∧
    (Consistent c registry call →
      (∃ r, (resolveWith c registry (memoAfter c registry history) [] call).1 = .ok r) ∨
      ∃ target p, PassesEmpty c registry call target p ∧
        (resolveWith c registry (memoAfter c registry history) [] call).1 =
          .error (.error (.missingArgument target.function p.name))) := by
  have hloaded := Decode.loaded_of_ofDocument h
  rw [fst_resolveWith_memoAfter]
  constructor
  · intro failure hfailure
    exact exists_justified_of_error hloaded hfailure
  · intro hconsistent
    exact exists_ok_or_empty_of_consistent hloaded hconsistent

/-! ## Greetings -/

/-- The only calls in the greetings are those of the inner function in the outer one. -/
theorem calls_greeting {caller callee : String} (h : greeting.Calls caller callee) :
    caller = "Twice" ∧ callee = "Write" := by
  obtain ⟨f, hf, site, hsite, rfl⟩ := h
  have hcalls : ∀ f ∈ greeting.functions, ∀ site ∈ f.calls,
      f.name = "Twice" ∧ site.function = "Write" := by
    decide
  rw [← greeting.name_of_getFunction? hf]
  exact hcalls f (greeting.mem_of_getFunction? hf) site hsite

/-- The outer function of the greetings leads to itself and to the inner one. -/
theorem reaches_greeting {name : String} (h : greeting.Reaches "Twice" name) :
    name = "Twice" ∨ name = "Write" := by
  cases h with
  | refl => exact .inl rfl
  | tail _ hcall => exact .inr (calls_greeting hcall).2

/-- A call in the greetings leads to nothing but itself and the calls inside functions. -/
theorem mem_of_site_greeting {call site : Call} (h : greeting.HasSite call site) :
    site ∈ call :: greeting.functions.flatMap Function.calls := by
  rcases h with rfl | ⟨caller, f, -, hf, hsite⟩
  · exact List.mem_cons_self
  · exact List.mem_cons_of_mem _
      (List.mem_flatMap.2 ⟨f, greeting.mem_of_getFunction? hf, hsite⟩)

/-- Without a word, everything fits together in the greetings. -/
theorem consistent_greeting : Consistent greeting Pipe.standard ⟨"Twice", []⟩ where
  defined name h := by
    rcases reaches_greeting h with rfl | rfl
    · exact ⟨_, rfl⟩
    · exact ⟨_, rfl⟩
  acyclic name _ h := by
    obtain ⟨_, hfirst, -⟩ := Relation.TransGen.head'_iff.1 h
    obtain ⟨_, -, hlast⟩ := Relation.TransGen.tail'_iff.1 h
    have hname := (calls_greeting hfirst).1
    rw [(calls_greeting hlast).2] at hname
    exact absurd hname (by decide)
  passes_declared site f hsite hf := by
    have hsites : ∀ site ∈ ⟨"Twice", []⟩ :: greeting.functions.flatMap Function.calls,
        ∀ f ∈ greeting.functions, f.name = site.function →
          ∀ name ∈ site.arguments.map Prod.fst, name ∈ f.parameterNames := by
      decide
    exact hsites site (mem_of_site_greeting hsite) f (greeting.mem_of_getFunction? hf)
      (greeting.name_of_getFunction? hf)
  passes_required site f hsite hf := by
    have hsites : ∀ site ∈ ⟨"Twice", []⟩ :: greeting.functions.flatMap Function.calls,
        ∀ f ∈ greeting.functions, f.name = site.function →
          ∀ p ∈ f.parameters, p.required → p.name ∈ site.arguments.map Prod.fst := by
      decide
    exact hsites site (mem_of_site_greeting hsite) f (greeting.mem_of_getFunction? hf)
      (greeting.name_of_getFunction? hf)
  uses_declared name f t _ hf ht := by
    have htemplates : ∀ f ∈ greeting.functions, ∀ t ∈ f.templates,
        ∀ parameter ∈ t.names, parameter ∈ f.parameterNames := by
      decide +kernel
    exact htemplates f (greeting.mem_of_getFunction? hf) t (Function.mem_templates_iff.2 ht)
  uses_known name f t _ hf ht pipe hpipe := by
    have htemplates : ∀ f ∈ greeting.functions, ∀ t ∈ f.templates, t.pipeNames = [] := by
      decide +kernel
    rw [htemplates f (greeting.mem_of_getFunction? hf) t (Function.mem_templates_iff.2 ht)]
      at hpipe
    cases hpipe

/-- In the greetings everything fits together for a call without a word, but the line of
the inner call turns out empty.  A call with a parameter that is not declared fails for
that reason. -/
theorem greeting_justified :
    Consistent greeting Pipe.standard ⟨"Twice", []⟩ ∧
    (∃ target p, PassesEmpty greeting Pipe.standard ⟨"Twice", []⟩ target p) ∧
    Justified greeting Pipe.standard ⟨"Twice", [("line", "hi")]⟩
      (.unexpectedArgument "Twice" "line") := by
  refine ⟨consistent_greeting, ?_, ?_⟩
  · have hfails : (resolveWith greeting Pipe.standard [] [] ⟨"Twice", []⟩).1 =
        .error (.error (.missingArgument "Write" "line")) := by decide +kernel
    obtain ⟨-, hempty⟩ :=
      resolveWith_error_justified ofDocument_greeting Pipe.standard [] ⟨"Twice", []⟩
    rcases hempty consistent_greeting with ⟨r, hr⟩ | ⟨target, p, hpasses, -⟩
    · rw [memoAfter, List.foldl_nil, hfails] at hr
      cases hr
    · exact ⟨target, p, hpasses⟩
  · have hfails : (resolveWith greeting Pipe.standard [] [] ⟨"Twice", [("line", "hi")]⟩).1 =
        .error (.error (.unexpectedArgument "Twice" "line")) := by decide
    obtain ⟨hjustified, -⟩ :=
      resolveWith_error_justified ofDocument_greeting Pipe.standard []
        ⟨"Twice", [("line", "hi")]⟩
    obtain ⟨e, he, hwrong⟩ := hjustified _ hfails
    cases he
    exact hwrong

end Compilation

end Tweaks
