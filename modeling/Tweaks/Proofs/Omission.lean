import Tweaks.Proofs.History
import Tweaks.Proofs.Showing
import Tweaks.Proofs.Skeleton

/-!
# What a call may leave out

A call may leave out what its function has a default for, and what is optional.  A default that
is left out is bound as if it had been passed.  An optional parameter without a default is bound
to no value, and to the empty text if that is passed: the memo tells the one from the other.  But
no template does.  Whatever a function writes and whatever it passes on is the same for both, so
that below the function there is nothing left to tell.

Main results:

- `settled_bindParameters`, `bindParameters_eq`: the values that arguments are bound to.
- `resolve_eq_of_getFunction?`: resolving such calls.
- `omissions_change_no_answer`: such calls at any time, whatever the memo holds.
-/

namespace Tweaks

/-! ## Arguments -/

/-- What a parameter takes if nothing is passed: its default, or if it has none and is optional no
value, which a template reads as the empty text. -/
inductive Parameter.Supplies (p : Parameter) : (value : String) → Prop
  | default {value : String} (declared : p.default = some value) : p.Supplies value
  | empty (may_lack : p.optional = true) (no_default : p.default = none) : p.Supplies ""

/-- What two calls pass for a parameter, or leave out, comes to the same. -/
inductive Parameter.Interchangeable (p : Parameter) : (given other : Option String) → Prop
  | same (given : Option String) : p.Interchangeable given given
  | omitted {value : String} (supplied : p.Supplies value) : p.Interchangeable none (some value)
  | passed {value : String} (supplied : p.Supplies value) : p.Interchangeable (some value) none

/-- The arguments of two calls are for declared parameters, and for each of them they come to the
same.  The order of the arguments does not matter. -/
structure Function.Interchangeable (f : Function) (given others : Arguments) : Prop where
  given_declared : ∀ argument ∈ given, argument.1 ∈ f.parameterNames
  others_declared : ∀ argument ∈ others, argument.1 ∈ f.parameterNames
  same : ∀ p ∈ f.parameters, p.Interchangeable (given.lookup p.name) (others.lookup p.name)

/-- What takes something in place of nothing is not required. -/
theorem Parameter.Supplies.not_required {p : Parameter} {value : String}
    (h : p.Supplies value) : p.required = false := by
  cases h with
  | default declared => simp [required, declared]
  | empty may_lack no_default => simp [required, may_lack]

/-- An answer that is the same for nothing and for what a parameter takes in its place is the same
for both calls. -/
theorem Parameter.Interchangeable.congr {α : Type} {p : Parameter} {given other : Option String}
    (h : p.Interchangeable given other) (answer : Option String → α)
    (hsupplied : ∀ value, p.Supplies value → answer none = answer (some value)) :
    answer given = answer other := by
  cases h with
  | same => rfl
  | omitted supplied => exact hsupplied _ supplied
  | passed supplied => exact (hsupplied _ supplied).symm

/-! ## Values that read alike -/

namespace Template

/-- Values read alike: no template can tell them from each other. -/
def Values.ReadAlike (values others : Values) : Prop :=
  ∀ name, values.get name = others.get name

/-- Values with the empty text for each parameter that has none. -/
def Values.settled (values : Values) : Values :=
  values.map fun entry => (entry.1, some (entry.2.getD ""))

/-- No template can tell whether a parameter has no value or the empty text. -/
theorem Values.readAlike_settled (values : Values) : values.ReadAlike values.settled := by
  intro name
  have hlookup := lookup_map_snd (fun value : Option String => some (value.getD "")) values name
  rw [get, get, find?, find?, settled, hlookup]
  cases values.lookup name <;> rfl

/-- Values that read alike are known for the same parameters. -/
theorem Values.ReadAlike.isNone_find? {values others : Values} (h : values.ReadAlike others)
    (name : String) : (values.find? name).isNone = (others.find? name).isNone := by
  have hname := h name
  rw [get, get] at hname
  split at hname <;> split at hname <;> simp_all

end Template

namespace Resolution

open Template

variable {c : Collection} {registry : Registry} {f : Function} {values others : Values}

/-- Values that read alike fill in a template alike. -/
theorem fill_eq_of_readAlike (h : values.ReadAlike others) (t : Template) :
    fill registry f values t = fill registry f others t := by
  have hundeclared : undeclared? values t = undeclared? others t := by
    simp only [undeclared?, h.isNone_find?]
  have hrender : t.render registry values = t.render registry others :=
    renderIn_congr registry h "" t
  rw [fill, fill, hundeclared, hrender]

/-- Values that read alike fill in arguments alike. -/
theorem fillArguments_eq_of_readAlike (h : values.ReadAlike others)
    (arguments : Arguments) :
    fillArguments registry f values arguments = fillArguments registry f others arguments := by
  induction arguments with
  | nil => rfl
  | cons argument rest ih =>
    obtain ⟨name, source⟩ := argument
    simp only [fillArguments, fill_eq_of_readAlike h, ih]

/-- Values that read alike give a function the same codes of its own. -/
theorem leaf_eq_of_readAlike (h : values.ReadAlike others) :
    leaf registry f values = leaf registry f others := by
  simp only [leaf, leafCode, leafRevertCode, fill_eq_of_readAlike h]

/-- With values that read alike the same calls are resolved inside a function. -/
theorem resolveCalls_eq_of_readAlike (h : values.ReadAlike others) (scope : List String)
    (calls : List Call) :
    resolveCalls c registry f values scope calls =
      resolveCalls c registry f others scope calls := by
  induction calls with
  | nil => simp only [resolveCalls]
  | cons call rest ih => simp only [resolveCalls, fillArguments_eq_of_readAlike h, ih]

/-! ## Binding -/

variable {given passed : Arguments}

/-- What a parameter would take anyway is bound as it is. -/
theorem parameterValue_of_supplies {p : Parameter} {value : String} (h : p.Supplies value)
    (function : String) : parameterValue function p (some value) = .ok (some value) := by
  simp [parameterValue, h.not_required]

/-- What is left out is bound as what is passed in its place, but for the empty text. -/
theorem settled_parameterValue {function : String} {p : Parameter} {given other : Option String}
    (h : p.Interchangeable given other) :
    (parameterValue function p given).map (·.getD "") =
      (parameterValue function p other).map (·.getD "") := by
  refine h.congr (fun given => (parameterValue function p given).map (·.getD "")) ?_
  intro value supplied
  rw [parameterValue_of_supplies supplied]
  cases supplied with
  | default declared => simp [parameterValue, declared, Except.map]
  | empty may_lack no_default => simp [parameterValue, may_lack, no_default, Except.map]

/-- A default that is left out is bound as if it had been passed. -/
theorem parameterValue_eq {function : String} {p : Parameter} {given other : Option String}
    (h : p.Interchangeable given other) (hnone : p.default = none → given = other) :
    parameterValue function p given = parameterValue function p other := by
  cases hdefault : p.default with
  | none => rw [hnone hdefault]
  | some declared =>
    refine h.congr (parameterValue function p) fun value supplied => ?_
    rw [parameterValue_of_supplies supplied]
    cases supplied with
    | default declared => simp [parameterValue, declared]
    | empty may_lack no_default => cases hdefault.symm.trans no_default

/-- The first of the parameters is bound, and then the others, but for the empty text. -/
theorem settled_bindParameters_cons (function : String) (arguments : Arguments) (p : Parameter)
    (rest : List Parameter) :
    (bindParameters function arguments (p :: rest)).map Values.settled = (do
      let text ← (parameterValue function p (arguments.lookup p.name)).map (·.getD "")
      let values ← (bindParameters function arguments rest).map Values.settled
      return (p.name, some text) :: values) := by
  rw [bindParameters]
  cases parameterValue function p (arguments.lookup p.name) with
  | error e => rfl
  | ok value => cases bindParameters function arguments rest <;> rfl

/-- Arguments that come to the same are bound to the same values, but for the empty text. -/
theorem settled_bindParameters {function : String} {parameters : List Parameter}
    (h : ∀ p ∈ parameters, p.Interchangeable (given.lookup p.name) (passed.lookup p.name)) :
    (bindParameters function given parameters).map Values.settled =
      (bindParameters function passed parameters).map Values.settled := by
  induction parameters with
  | nil => rfl
  | cons p rest ih =>
    obtain ⟨hp, hrest⟩ := List.forall_mem_cons.1 h
    rw [settled_bindParameters_cons, settled_bindParameters_cons, settled_parameterValue hp,
      ih hrest]

/-- Arguments that come to the same without empty texts are bound to the same values. -/
theorem bindParameters_eq {function : String} {parameters : List Parameter}
    (h : ∀ p ∈ parameters, p.Interchangeable (given.lookup p.name) (passed.lookup p.name))
    (hnone : ∀ p ∈ parameters, p.default = none → given.lookup p.name = passed.lookup p.name) :
    bindParameters function given parameters = bindParameters function passed parameters := by
  induction parameters with
  | nil => rfl
  | cons p rest ih =>
    obtain ⟨hp, hrest⟩ := List.forall_mem_cons.1 h
    obtain ⟨hpNone, hrestNone⟩ := List.forall_mem_cons.1 hnone
    rw [bindParameters, bindParameters, parameterValue_eq hp hpNone, ih hrest hrestNone]

/-- Arguments for declared parameters are bound to them. -/
theorem bindArguments_of_declared (h : ∀ argument ∈ given, argument.1 ∈ f.parameterNames) :
    bindArguments f given = bindParameters f.name given f.parameters := by
  have hnone : unexpected? f.parameterNames given = none := by
    rw [unexpected?, List.find?_eq_none, List.forall_mem_map]
    simpa using h
  rw [bindArguments, hnone]

/-! ## Resolving -/

/-- Calls whose arguments come to the same resolve to the same. -/
theorem resolve_eq_of_getFunction? {name : String} (hf : c.getFunction? name = some f)
    (h : f.Interchangeable given passed) (scope : List String) :
    resolve c registry scope ⟨name, given⟩ = resolve c registry scope ⟨name, passed⟩ := by
  by_cases hscope : name ∈ scope
  · rw [← c.name_of_getFunction? hf] at hscope
    rw [resolve_of_cycle hf hscope, resolve_of_cycle hf hscope]
  · -- What is done with the values is done as well with those that read alike.
    let answer (values : Values) : Except Failure Resolved :=
      if f.calls.isEmpty then leaf registry f values
      else do
        let results ← resolveCalls c registry f values (scope ++ [name]) f.calls
        return merge results
    have hanswer (values : Values) : answer values = answer values.settled := by
      have halike := values.readAlike_settled
      simp only [answer, leaf_eq_of_readAlike halike, resolveCalls_eq_of_readAlike halike]
    have hbound : (bindArguments f given).map Values.settled =
        (bindArguments f passed).map Values.settled := by
      rw [bindArguments_of_declared h.given_declared, bindArguments_of_declared h.others_declared]
      exact settled_bindParameters h.same
    have hresolve (arguments : Arguments) : resolve c registry scope ⟨name, arguments⟩ =
        (bindArguments f arguments).map Values.settled >>= answer := by
      rw [resolve_of_entered hf hscope, Stepwise.map_bind]
      exact congrArg (bindArguments f arguments >>= ·) (funext hanswer)
    rw [hresolve, hresolve, hbound]

/-- Calls that bind the same values are the same for the memo as well. -/
theorem resolveWith_eq_of_bindArguments {name : String} (hf : c.getFunction? name = some f)
    (h : bindArguments f given = bindArguments f passed) (memo : Memo) (scope : List String) :
    resolveWith c registry memo scope ⟨name, given⟩ =
      resolveWith c registry memo scope ⟨name, passed⟩ := by
  have henter : enter c memo scope ⟨name, given⟩ = enter c memo scope ⟨name, passed⟩ := by
    simp only [enter, hf, h]
  rw [resolveWith, resolveWith, henter]

end Resolution

namespace Compilation

open Resolution

/-- A call that leaves out what its function has a default for, or what is optional, is answered
as one that passes the default, or the empty text, by the same codes or the same error, whatever
was done with the memo before the one and before the other.  If only defaults are left out the
memo cannot tell them from each other either. -/
theorem omissions_change_no_answer {c : Collection} (hloaded : c.Loaded) {f : Function}
    (hf : f ∈ c.functions) {given passed : Arguments} (h : f.Interchangeable given passed)
    (registry : Template.Registry) :
    (∀ history history',
      (resolveWith c registry (memoAfter c registry history) [] ⟨f.name, given⟩).1 =
        (resolveWith c registry (memoAfter c registry history') [] ⟨f.name, passed⟩).1) ∧
    ((∀ p ∈ f.parameters, p.default = none → given.lookup p.name = passed.lookup p.name) →
      ∀ memo scope, resolveWith c registry memo scope ⟨f.name, given⟩ =
        resolveWith c registry memo scope ⟨f.name, passed⟩) := by
  have hfound := c.getFunction?_of_mem hloaded.functions_nodup hf
  constructor
  · intro history history'
    rw [fst_resolveWith_memoAfter, fst_resolveWith_memoAfter]
    exact resolve_eq_of_getFunction? hfound h []
  · intro hnone memo scope
    refine resolveWith_eq_of_bindArguments hfound ?_ memo scope
    rw [bindArguments_of_declared h.given_declared, bindArguments_of_declared h.others_declared]
    exact bindParameters_eq h.same hnone

/-- A document with a function that serves a drink, tea if no other one is asked for, with a note
or without one, and with the function that it calls for this. -/
def servingDocument : Document :=
  .mapping
    [(.text "os", .text "linux"),
      (.text "actions", .list
        [.mapping [(.text "category", .text "Kitchen"), (.text "children", .list
          [.mapping [(.text "name", .text "Open"), (.text "code", .text "open")]])]]),
      (.text "functions", .list
        [.mapping [(.text "name", .text "Say"),
            (.text "parameters", .list [.mapping [(.text "name", .text "line")]]),
            (.text "code", .text "echo {{ $line }}")],
          .mapping [(.text "name", .text "Serve"),
            (.text "parameters", .list
              [.mapping [(.text "name", .text "drink"), (.text "default", .text "tea")],
                .mapping [(.text "name", .text "note"), (.text "optional", .bool true)]]),
            (.text "call", .mapping [(.text "function", .text "Say"),
              (.text "parameters", .mapping
                [(.text "line", .text "{{ $drink }}{{ with $note }} ({{ . }}){{ end }}")])])]])]

/-- The function of `servingDocument` that serves a drink. -/
def serve : Function :=
  ⟨"Serve", [⟨"drink", true, some "tea"⟩, ⟨"note", true, none⟩], none, none,
    [⟨"Say", [("line", "{{ $drink }}{{ with $note }} ({{ . }}){{ end }}")]⟩]⟩

/-- The collection of `servingDocument`. -/
def serving : Collection where
  os := .linux
  scripting := none
  actions := [⟨"Kitchen", [], .script ⟨"Open", some "open", none, [], none, []⟩ .empty⟩]
  functions := [
    ⟨"Say", [⟨"line", false, none⟩], some (.text "echo " (.hole (some "line") [] .done)), none, []⟩,
    serve]

/-- Who asks for nothing is served tea, as who asks for tea with an empty note. -/
theorem serves_without_asking :
    serving.Loaded ∧ serve ∈ serving.functions ∧
    serve.Interchangeable [] [("note", ""), ("drink", "tea")] ∧
    (∀ history history',
      (resolveWith serving (fun _ => none) (memoAfter serving (fun _ => none) history) []
        ⟨"Serve", []⟩).1 =
      (resolveWith serving (fun _ => none) (memoAfter serving (fun _ => none) history') []
        ⟨"Serve", [("note", ""), ("drink", "tea")]⟩).1) ∧
    (resolveWith serving (fun _ => none) [] [] ⟨"Serve", []⟩).1 = .ok ⟨"echo tea", none⟩ := by
  have hdocument : Collection.ofDocument servingDocument = .ok serving := by decide +kernel
  have hloaded := Decode.loaded_of_ofDocument hdocument
  have hserve : serve ∈ serving.functions := by decide
  have hsame : serve.Interchangeable [] [("note", ""), ("drink", "tea")] := by
    refine ⟨by decide, by decide, List.forall_mem_cons.2 ⟨?_, List.forall_mem_singleton.2 ?_⟩⟩
    · exact .omitted (.default rfl)
    · exact .omitted (.empty rfl rfl)
  exact ⟨hloaded, hserve, hsame,
    (omissions_change_no_answer hloaded hserve hsame fun _ => none).1, by decide +kernel⟩

end Compilation

end Tweaks
