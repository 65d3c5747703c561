import Tweaks.Proofs.Flattening
import Tweaks.Proofs.Skeleton

/-!
# Arguments are data

A text that is passed to a function is inserted where its parameter stands, and is never
read as a template.  Without pipes, which may look into a text, it matters only whether
the text is empty.  So calls with arguments that look alike fail alike, or reach the same
leaves, and the texts of the leaves differ only in the arguments' texts themselves.

Main results:

- `uniform_fill`, `uniform_fillArguments`: filling in a function's templates.
- `uniform_bindArguments`: binding arguments.
- `uniform_resolveCalls`, `uniform_resolve`: resolving, from the calls inside a function
  to the function.
- `arguments_are_data`: calls with arguments that look alike, behind any histories of
  operations.
-/

namespace Tweaks

namespace Resolution

open Stepwise

variable {c : Collection} {registry : Template.Registry} {f : Function}
  {given : Arguments} {names : List String}

/-! ## Filling in templates -/

/-- Why a template of a function cannot be filled in, once its parameters are known to be
declared. -/
def failureOf (f : Function) : Template.RenderError → Failure
  | .unknownPipe pipe => .error (.unknownPipe pipe f.name)
  | .unbound name => .unbound name

/-- A template whose parameters are declared is filled in as it is. -/
theorem fill_of_declared (registry : Template.Registry) {values : Template.Values}
    {t : Template} (h : undeclared? values t = none) :
    fill registry f values t = (t.render registry values).mapError (failureOf f) := by
  rw [fill, h]
  cases t.render registry values with
  | ok text => rfl
  | error e => cases e <;> rfl

/-- The texts of a function's template without pipes have one skeleton. -/
theorem uniform_fill (registry : Template.Registry) (f : Function) (s : Sketch names)
    {t : Template} (ht : t.pipeNames = []) :
    HasSkeleton names given fun others => fill registry f (s.fill others) t := by
  -- Whether a parameter is declared does not depend on its value.
  have hundeclared (others : Arguments) : undeclared? (s.fill others) t =
      t.parameters.find? fun name => (s.lookup name).isNone := by
    simp only [undeclared?, Sketch.find?_fill, Option.isNone_map]
  cases hcheck : t.parameters.find? fun name => (s.lookup name).isNone with
  | some name =>
    refine .error (.error (.undeclaredParameter f.name name)) fun others _ => ?_
    rw [fill, hundeclared, hcheck]
  | none =>
    refine ((Template.uniform_renderIn registry s ht []).mapError (failureOf f)).congr
      fun others _ => ?_
    exact fill_of_declared registry ((hundeclared others).trans hcheck)

/-- Texts that are passed for parameters, each as a skeleton. -/
abbrev Passed (names : List String) := List (String × Skeleton names)

/-- What is passed for given arguments. -/
def Passed.fill (arguments : Arguments) (p : Passed names) : Arguments :=
  p.map fun entry => (entry.1, entry.2.fill arguments)

/-- The arguments of a call inside a function, filled in, have skeletons. -/
theorem uniform_fillArguments (registry : Template.Registry) (f : Function)
    (s : Sketch names) {arguments : List (String × String)}
    (hpipes : ∀ argument ∈ arguments, ∀ t, Template.parse argument.2 = .ok t →
      t.pipeNames = []) :
    UniformIn given (fun others (p : Passed names) => p.fill others) fun others =>
      fillArguments registry f (s.fill others) arguments := by
  induction arguments with
  | nil => exact .make [] fun _ _ => rfl
  | cons first rest ih =>
    obtain ⟨name, source⟩ := first
    obtain ⟨hfirst, hrest⟩ := List.forall_mem_cons.1 hpipes
    cases hparse : Template.parse source with
    | error e =>
      refine .error (.argument e) fun others _ => ?_
      rw [fillArguments, hparse]
      rfl
    | ok t =>
      have hstep : UniformIn given (fun others (p : Passed names) => p.fill others)
          fun others => (do
            let text ← fill registry f (s.fill others) t
            let texts ← fillArguments registry f (s.fill others) rest
            return (name, text) :: texts) := by
        refine .bind_make (uniform_fill registry f s (hfirst t hparse)) fun text _ => ?_
        refine .bind_make (ih hrest) fun texts _ => ?_
        exact .make ((name, text) :: texts) fun _ _ => rfl
      refine hstep.congr fun others _ => ?_
      rw [fillArguments, hparse]
      rfl

/-! ## Binding arguments -/

/-- What is passed follows skeletons: it has their names, and their texts by these. -/
structure Follows (given : Arguments) (passed : Arguments → Arguments) (p : Passed names) :
    Prop where
  names_eq : ∀ others, Alike given others → (passed others).map Prod.fst = p.map Prod.fst
  lookup_eq : ∀ others, Alike given others → ∀ name,
    (passed others).lookup name = (p.lookup name).map (Skeleton.fill others)

/-- Skeletons that are filled in are followed. -/
theorem Follows.fill (given : Arguments) (p : Passed names) :
    Follows given (fun others => p.fill others) p where
  names_eq _ _ := by rw [Passed.fill, List.map_map]; rfl
  lookup_eq others _ name := lookup_map_snd (Skeleton.fill others) p name

/-- Arguments as they are: for each name there is nothing but its hole. -/
def Passed.holes (names : List String) : Passed names :=
  names.map fun name => (name, if given : name ∈ names then [.hole name given] else [])

/-- Arguments that look alike follow their own holes. -/
theorem follows_holes (given : Arguments) :
    Follows given (fun others => others) (Passed.holes (given.map Prod.fst)) where
  names_eq others halike := by
    rw [Passed.holes, List.map_map, halike.names_eq]
    exact (List.map_id _).symm
  lookup_eq others halike name := by
    by_cases hname : name ∈ given.map Prod.fst
    · obtain ⟨text, htext⟩ : ∃ text, others.lookup name = some text := by
        rw [← Option.ne_none_iff_exists', ne_eq, lookup_eq_none_iff_not_mem, halike.names_eq]
        exact not_not_intro hname
      rw [Passed.holes, List.lookup_graph _ hname, dif_pos hname, Option.map_some, htext]
      simp [Skeleton.fill, Piece.fill, htext]
    · rw [lookup_eq_none_iff_not_mem.2, lookup_eq_none_iff_not_mem.2]
      · rfl
      · rw [Passed.holes, List.map_map]
        simpa using hname
      · rw [halike.names_eq]
        exact hname

/-- The value of a parameter goes alike. -/
theorem uniform_parameterValue (function : String) (p : Parameter)
    (text : Option (Skeleton names)) :
    UniformIn given (fun others (value : Option (Skeleton names)) =>
        value.map (Skeleton.fill others)) fun others =>
      parameterValue function p (text.map (Skeleton.fill others)) := by
  cases text with
  | none =>
    cases hdefault : p.default with
    | some value =>
      refine .make (some [.literal value]) fun others _ => ?_
      simp [parameterValue, hdefault, Skeleton.fill, Piece.fill]
    | none =>
      by_cases hoptional : p.optional
      · exact .make none fun others _ => by simp [parameterValue, hdefault, hoptional]
      · exact .error (.error (.missingArgument function p.name)) fun others _ => by
          simp [parameterValue, hdefault, hoptional]
  | some text =>
    -- The empty text counts as none, for all arguments that look alike.
    by_cases hmissing : text.fill given = "" ∧ p.required
    · refine .error (.error (.missingArgument function p.name)) fun others halike => ?_
      simp [parameterValue, (halike.fill_eq_empty_iff text).1 hmissing.1, hmissing.2]
    · refine .make (some text) fun others halike => ?_
      rw [halike.fill_eq_empty_iff text] at hmissing
      simpa [parameterValue] using hmissing

/-- The values of parameters have skeletons. -/
theorem uniform_bindParameters (function : String) {passed : Arguments → Arguments}
    {p : Passed names} (h : Follows given passed p) (parameters : List Parameter) :
    UniformIn given (fun others (s : Sketch names) => s.fill others) fun others =>
      bindParameters function (passed others) parameters := by
  induction parameters with
  | nil => exact .make [] fun _ _ => rfl
  | cons parameter rest ih =>
    have hvalue : UniformIn given (fun others (value : Option (Skeleton names)) =>
        value.map (Skeleton.fill others)) fun others =>
          parameterValue function parameter ((passed others).lookup parameter.name) := by
      refine (uniform_parameterValue function parameter (p.lookup parameter.name)).congr ?_
      intro others halike
      rw [h.lookup_eq others halike]
    refine .bind_make hvalue fun value _ => ?_
    refine .bind_make ih fun values _ => ?_
    exact .make ((parameter.name, value) :: values) fun _ _ => rfl

/-- The values of a function's parameters have skeletons. -/
theorem uniform_bindArguments (f : Function) {passed : Arguments → Arguments}
    {p : Passed names} (h : Follows given passed p) :
    UniformIn given (fun others (s : Sketch names) => s.fill others) fun others =>
      bindArguments f (passed others) := by
  have hunexpected (others : Arguments) (halike : Alike given others) :
      unexpected? f.parameterNames (passed others) =
        (p.map Prod.fst).find? fun name => !f.parameterNames.contains name := by
    rw [unexpected?, h.names_eq others halike]
  cases hcheck : (p.map Prod.fst).find? fun name => !f.parameterNames.contains name with
  | some name =>
    refine .error (.error (.unexpectedArgument f.name name)) fun others halike => ?_
    rw [bindArguments, hunexpected others halike, hcheck]
  | none =>
    refine (uniform_bindParameters f.name h f.parameters).congr fun others halike => ?_
    rw [bindArguments, hunexpected others halike, hcheck]

/-! ## Leaves -/

/-- A function with code of its own, and the skeletons of its texts. -/
structure Outline (names : List String) where
  function : Function
  code : Skeleton names
  revertCode : Skeleton names

/-- A leaf has the function of an outline, and its texts are the skeletons of the outline
with arguments in their holes. -/
structure Outline.Fits {names : List String} (registry : Template.Registry)
    (arguments : Arguments) (o : Outline names) (l : Leaf) : Prop where
  function_eq : l.function = o.function
  code_eq : l.text registry Function.code = .ok (o.code.fill arguments)
  revertCode_eq : l.text registry Function.revertCode = .ok (o.revertCode.fill arguments)

/-- Calls expand into leaves that fit outlines. -/
def Outlined (c : Collection) (registry : Template.Registry) (arguments : Arguments)
    (calls : List Call) (outlines : List (Outline names)) : Prop :=
  ∃ leaves, Expands c registry calls leaves ∧
    List.Forall₂ (Outline.Fits registry arguments) outlines leaves

/-- The outlines of some calls and of others are those of all of them. -/
theorem Outlined.append {arguments : Arguments} {calls others : List Call}
    {outlines more : List (Outline names)} (h : Outlined c registry arguments calls outlines)
    (h' : Outlined c registry arguments others more) :
    Outlined c registry arguments (calls ++ others) (outlines ++ more) := by
  obtain ⟨leaves, hleaves, hfits⟩ := h
  obtain ⟨rest, hrest, hmore⟩ := h'
  exact ⟨leaves ++ rest, hleaves.append hrest, List.rel_append hfits hmore⟩

/-- The texts of a leaf without pipes have skeletons. -/
theorem uniform_text (registry : Template.Registry) (part : Function → Option Template)
    (f : Function) (s : Sketch names) (hpipes : ∀ t, part f = some t → t.pipeNames = []) :
    HasSkeleton names given fun others => Leaf.text registry part ⟨f, s.fill others⟩ := by
  cases hpart : part f with
  | none =>
    refine .make [] fun others _ => ?_
    rw [Leaf.text, hpart]
    rfl
  | some t =>
    refine (uniform_fill registry f s (hpipes t hpart)).congr fun others _ => ?_
    rw [Leaf.text, hpart]

/-- A leaf without pipes has an outline. -/
theorem uniform_leaf (registry : Template.Registry) (f : Function) (s : Sketch names)
    (hpipes : ∀ t, f.HasTemplate t → t.pipeNames = []) :
    Uniform given (fun others (o : Outline names) (_ : Resolved) =>
        o.Fits registry others ⟨f, s.fill others⟩) fun others =>
      leaf registry f (s.fill others) := by
  have htexts : Uniform given (fun others (o : Outline names) (_ : Resolved) =>
      o.Fits registry others ⟨f, s.fill others⟩) fun others => (do
        let code ← Leaf.text registry Function.code ⟨f, s.fill others⟩
        let revert ← Leaf.text registry Function.revertCode ⟨f, s.fill others⟩
        return ⟨Text.trim code, filled? (Text.trim revert)⟩) := by
    refine .bind_make (uniform_text registry Function.code f s fun t ht => hpipes t (.code ht))
      fun code hcode => ?_
    refine .bind_make
      (uniform_text registry Function.revertCode f s fun t ht => hpipes t (.revertCode ht))
      fun revert hrevert => ?_
    refine .ok ⟨f, code, revert⟩ fun others halike => ⟨_, rfl, ?_⟩
    exact ⟨rfl, hcode others halike, hrevert others halike⟩
  exact htexts.congr fun others _ => leaf_eq registry f (s.fill others)

/-! ## Resolving -/

/-- The calls inside a function have outlines if each of them has. -/
theorem uniform_resolveCalls {scope : List String} {s : Sketch names}
    (hcall : ∀ (site : Call) {passed : Arguments → Arguments} {p : Passed names},
      Follows given passed p →
      Uniform given (fun others (outlines : List (Outline names)) (_ : Resolved) =>
          Outlined c registry others [⟨site.function, passed others⟩] outlines) fun others =>
        resolve c registry scope ⟨site.function, passed others⟩)
    {calls : List Call}
    (hpipes : ∀ site ∈ calls, ∀ argument ∈ site.arguments, ∀ t,
      Template.parse argument.2 = .ok t → t.pipeNames = []) :
    Uniform given (fun others (outlines : List (Outline names)) (_ : List Resolved) =>
        ∃ inside, calls.mapM (fillCall registry f (s.fill others)) = .ok inside ∧
          Outlined c registry others inside outlines) fun others =>
      resolveCalls c registry f (s.fill others) scope calls := by
  induction calls with
  | nil =>
    refine .ok [] fun others _ => ⟨[], by rw [resolveCalls], [], rfl, [], .nil, .nil⟩
  | cons site rest ih =>
    obtain ⟨hsite, hrest⟩ := List.forall_mem_cons.1 hpipes
    have hstep : Uniform given (fun others (outlines : List (Outline names))
        (_ : List Resolved) =>
          ∃ inside, (site :: rest).mapM (fillCall registry f (s.fill others)) = .ok inside ∧
            Outlined c registry others inside outlines) fun others => (do
        let arguments ← fillArguments registry f (s.fill others) site.arguments
        let first ← resolve c registry scope ⟨site.function, arguments⟩
        let others ← resolveCalls c registry f (s.fill others) scope rest
        return first :: others) := by
      refine .bind_make (uniform_fillArguments registry f s hsite) fun p hp => ?_
      refine .bind (hcall site (.fill given p)) fun first result hfirst => ?_
      refine .bind (ih hrest) fun more results hmore => ?_
      refine .ok (first ++ more) fun others halike => ⟨_, rfl, ?_⟩
      obtain ⟨-, hfirst⟩ := hfirst others halike
      obtain ⟨-, inside, hinside, hmore⟩ := hmore others halike
      refine ⟨⟨site.function, p.fill others⟩ :: inside, ?_, hfirst.append hmore⟩
      rw [mapM_cons, fillCall, hp others halike, hinside]
      rfl
    refine hstep.congr fun others _ => ?_
    rw [resolveCalls]

/-- In a decoded collection without pipes, calls with arguments that look alike fail
alike, or have the same outlines. -/
theorem uniform_resolve (hloaded : c.Loaded)
    (hpipes : ∀ f ∈ c.functions, ∀ t, f.HasTemplate t → t.pipeNames = [])
    (registry : Template.Registry) (scope : List String) (call : Call)
    {passed : Arguments → Arguments} {p : Passed names} (h : Follows given passed p) :
    Uniform given (fun others (outlines : List (Outline names)) (_ : Resolved) =>
        Outlined c registry others [⟨call.function, passed others⟩] outlines) fun others =>
      resolve c registry scope ⟨call.function, passed others⟩ := by
  -- A call inside the function gets arguments of its own, which follow other skeletons.
  induction scope, call using entering_induction (c := c) generalizing passed p with
  | step scope call ih =>
    cases hf : c.getFunction? call.function with
    | none =>
      refine .error (.error (.unknownFunction call.function)) fun others _ => ?_
      rw [resolve_of_unknown]
      exact hf
    | some f =>
      have hmem := c.mem_of_getFunction? hf
      by_cases hscope : call.function ∈ scope
      · refine .error (.error (.cyclicCall (cycleFrom scope f.name))) fun others _ => ?_
        rw [resolve_of_cycle (f := f)]
        · exact hf
        · rw [c.name_of_getFunction? hf]
          exact hscope
      refine Uniform.congr ?_ fun others _ => resolve_of_entered hf hscope
      refine .bind_make (uniform_bindArguments f h) fun s hs => ?_
      by_cases hcalls : f.calls = []
      · obtain ⟨t, ht⟩ := (hloaded.calls_or_code f hmem).1 hcalls
        simp only [hcalls, List.isEmpty_nil, if_true]
        refine (uniform_leaf registry f s (hpipes f hmem)).imp (fun o => [o]) ?_
        intro others o _ halike hfits
        exact ⟨_, .leaf hf (hs others halike) ht .nil, .cons hfits .nil⟩
      · have hnone := hloaded.code_eq_none hmem hcalls
        simp only [List.isEmpty_iff, hcalls, if_false]
        refine .bind (uniform_resolveCalls (fun site => ih f hf hscope site) ?_)
          fun outlines results hresults => ?_
        · intro site hsite argument hargument t ht
          exact hpipes f hmem t (.argument hsite hargument ht)
        refine .ok outlines fun others halike => ⟨_, rfl, ?_⟩
        obtain ⟨-, inside, hinside, leaves, hleaves, hfits⟩ := hresults others halike
        refine ⟨leaves, .inner hf (hs others halike) hnone hinside ?_, hfits⟩
        rw [List.append_nil]
        exact hleaves

end Resolution

namespace Compilation

open Resolution

/-- Arguments are data, never code.  In a decoded collection whose templates have no
pipes, calls of a function with arguments that look alike all fail in the same way, or
all resolve, whatever was done with the memos before.  Then they reach the same leaves in
the same order, and the text of each leaf is one skeleton with the arguments, as they
are, in its holes. -/
theorem arguments_are_data {d : Document} {c : Collection}
    (h : Collection.ofDocument d = .ok c)
    (hpipes : ∀ f ∈ c.functions, ∀ t, f.HasTemplate t → t.pipeNames = [])
    (registry : Template.Registry) (function : String) (given : Arguments) :
    (∃ failure, ∀ others, Alike given others → ∀ history,
      (resolveWith c registry (memoAfter c registry history) [] ⟨function, others⟩).1 =
        .error failure) ∨
    ∃ outlines : List (Outline (given.map Prod.fst)),
      ∀ others, Alike given others → ∀ history, ∃ r leaves,
        (resolveWith c registry (memoAfter c registry history) [] ⟨function, others⟩).1 =
            .ok r ∧
          Expands c registry [⟨function, others⟩] leaves ∧
            List.Forall₂ (Outline.Fits registry others) outlines leaves := by
  rcases uniform_resolve (Decode.loaded_of_ofDocument h) hpipes registry [] ⟨function, given⟩
    (follows_holes given) with ⟨e, he⟩ | ⟨outlines, houtlines⟩
  · refine .inl ⟨e, fun others halike history => ?_⟩
    rw [fst_resolveWith_memoAfter]
    exact he others halike
  · refine .inr ⟨outlines, fun others halike history => ?_⟩
    obtain ⟨r, hr, leaves, hleaves, hfits⟩ := houtlines others halike
    rw [fst_resolveWith_memoAfter]
    exact ⟨r, leaves, hr, hleaves, hfits⟩

/-- The templates of the greetings have no pipes. -/
theorem pipeNames_greeting : ∀ f ∈ greeting.functions, ∀ t, f.HasTemplate t →
    t.pipeNames = [] := by
  have htemplates : ∀ f ∈ greeting.functions, ∀ t ∈ f.templates, t.pipeNames = [] := by
    decide +kernel
  intro f hf t ht
  exact htemplates f hf t (Function.mem_templates_iff.2 ht)

/-- For a word with braces the outer function of the greetings has the same outlines as
for one without. -/
theorem greeting_arguments :
    (∀ f ∈ greeting.functions, ∀ t, f.HasTemplate t → t.pipeNames = []) ∧
    Alike [("word", "hi")] [("word", "{{ end }}")] ∧
    ∃ outlines : List (Outline ["word"]),
      ∀ others, Alike [("word", "hi")] others → ∃ r leaves,
        (resolveWith greeting Pipe.standard [] [] ⟨"Twice", others⟩).1 = .ok r ∧
          Expands greeting Pipe.standard [⟨"Twice", others⟩] leaves ∧
            List.Forall₂ (Outline.Fits Pipe.standard others) outlines leaves := by
  refine ⟨pipeNames_greeting, .cons ⟨rfl, by decide⟩ .nil, ?_⟩
  rcases arguments_are_data ofDocument_greeting pipeNames_greeting Pipe.standard "Twice"
    [("word", "hi")] with ⟨failure, hfailure⟩ | ⟨outlines, houtlines⟩
  · have hresolves : (resolveWith greeting Pipe.standard [] [] ⟨"Twice", [("word", "hi")]⟩).1 =
        .ok ⟨"echo hi\necho <hi> # hi", some "drop <hi>"⟩ := by decide +kernel
    have hfails := hfailure [("word", "hi")] (.refl _) []
    rw [memoAfter, List.foldl_nil, hresolves] at hfails
    cases hfails
  · exact ⟨outlines, fun others halike => houtlines others halike []⟩

end Compilation

end Tweaks
