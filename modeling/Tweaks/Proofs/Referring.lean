import Tweaks.Proofs.Failure
import Tweaks.Proofs.Showing

/-!
# What a template refers to

A template refers to parameters and to pipes.  Filling it in asks for no others: values for
those parameters and a registry with those pipes are enough, and nothing else about values and
registry matters.  It may ask for fewer, since a block whose value is empty is skipped.  But with
values of which none is empty every block stands, and then it asks for each of them.

Main results:

- `exists_render_of_defines`: values and pipes that are enough.
- `complete_of_renderIn`: where all blocks stand, nothing less is enough.
- `render_without_parameter`, `render_without_pipe`: one of them that is missing is asked for.
- `asks_for_what_it_refers_to`: all of it together.
-/

namespace Tweaks.Template

/-- A registry has all pipes of a template. -/
def Registry.Has (registry : Registry) (t : Template) : Prop :=
  ∀ pipe ∈ t.pipes, (registry pipe).isSome

instance (registry : Registry) (t : Template) : Decidable (registry.Has t) :=
  inferInstanceAs (Decidable (∀ pipe ∈ t.pipes, (registry pipe).isSome))

/-- The pipes of a template, in the order of their names or of their appearance. -/
theorem mem_pipes_iff {t : Template} {pipe : String} : pipe ∈ t.pipes ↔ pipe ∈ t.pipeNames :=
  Text.mem_sortDistinct

/-! ## What is enough -/

variable {registry : Registry} {values : Values} {t : Template}

/-- A template that cannot be filled in refers to the parameter or the pipe that is missing. -/
theorem exists_of_render_eq_error {e : RenderError} (h : render registry values t = .error e) :
    (∃ name ∈ t.parameters, values.find? name = none ∧ e = .unbound name) ∨
      ∃ pipe ∈ t.pipes, registry pipe = none ∧ e = .unknownPipe pipe := by
  cases lacks_of_renderIn h with
  | value used missing => exact .inl ⟨_, mem_parameters_iff.2 used, missing, rfl⟩
  | pipe used missing => exact .inr ⟨_, mem_pipes_iff.2 used, missing, rfl⟩

/-- Values for the parameters of a template and a registry with its pipes are enough to fill it
in. -/
theorem exists_render_of_defines (hvalues : values.Defines t) (hpipes : registry.Has t) :
    ∃ written, render registry values t = .ok written := by
  cases hrender : render registry values t with
  | ok written => exact ⟨written, rfl⟩
  | error e =>
    rcases exists_of_render_eq_error hrender with ⟨name, hname, hnone, -⟩ | ⟨pipe, hpipe, hnone, -⟩
    · have hsome := hvalues name hname
      rw [hnone] at hsome
      cases hsome
    · have hsome := hpipes pipe hpipe
      rw [hnone] at hsome
      cases hsome

/-! ## What is asked for -/

/-- A parameter that is looked up is known. -/
theorem isSome_of_get_eq_ok {name value : String} (h : values.get name = .ok value) :
    (values.find? name).isSome := by
  rw [Values.get] at h
  split at h
  · cases h
  · next hsome => rw [hsome]; rfl

/-- Pipes that a value went through are in the registry. -/
theorem isSome_of_applyPipes_eq_ok {pipes : List String} {value shown : String}
    (h : applyPipes registry pipes value = .ok shown) : ∀ pipe ∈ pipes, (registry pipe).isSome := by
  induction pipes generalizing value with
  | nil => simp
  | cons pipe pipes ih =>
    rw [applyPipes] at h
    split at h
    · cases h
    · next f hf => exact List.forall_mem_cons.2 ⟨by rw [hf]; rfl, ih h⟩

/-- A template that was filled in with values of which none is empty found all that it refers
to. -/
theorem complete_of_renderIn (hfull : ∀ name value, values.get name = .ok value → value ≠ "")
    {dot written : String} (h : renderIn registry values dot t = .ok written) :
    (∀ name ∈ t.names, (values.find? name).isSome) ∧
      ∀ pipe ∈ t.pipeNames, (registry pipe).isSome := by
  induction t generalizing dot written with
  | done => simp [names, pipeNames]
  | text value rest ih =>
    obtain ⟨after, hafter, -⟩ := Stepwise.exists_of_bind_eq_ok h
    exact ih hafter
  | hole parameter pipes rest ih =>
    obtain ⟨value, hvalue, h⟩ := Stepwise.exists_of_bind_eq_ok h
    obtain ⟨shown, hshown, h⟩ := Stepwise.exists_of_bind_eq_ok h
    obtain ⟨after, hafter, -⟩ := Stepwise.exists_of_bind_eq_ok h
    obtain ⟨hnames, hpipes⟩ := ih hafter
    have hparameter : ∀ name ∈ parameter.toList, (values.find? name).isSome := by
      intro name hname
      rw [Option.mem_toList] at hname
      subst hname
      exact isSome_of_get_eq_ok hvalue
    rw [names, pipeNames, List.forall_mem_append, List.forall_mem_append]
    exact ⟨⟨hparameter, hnames⟩, isSome_of_applyPipes_eq_ok hshown, hpipes⟩
  | block name body rest ihBody ihRest =>
    obtain ⟨value, hvalue, h⟩ := Stepwise.exists_of_bind_eq_ok h
    obtain ⟨shown, hshown, h⟩ := Stepwise.exists_of_bind_eq_ok h
    obtain ⟨after, hafter, -⟩ := Stepwise.exists_of_bind_eq_ok h
    -- The block stands, so that its body was filled in.
    rw [if_neg (mt String.isEmpty_iff.1 (hfull name value hvalue))] at hshown
    obtain ⟨hinside, hpipesInside⟩ := ihBody hshown
    obtain ⟨hbehind, hpipesBehind⟩ := ihRest hafter
    rw [names, pipeNames, List.cons_append, List.forall_mem_cons, List.forall_mem_append,
      List.forall_mem_append]
    exact ⟨⟨isSome_of_get_eq_ok hvalue, hinside, hbehind⟩, hpipesInside, hpipesBehind⟩

/-! ## What may be missing -/

/-- Values for all of some names, or all but one, none of them empty. -/
def Values.allBut (missing : Option String) (names : List String) : Values :=
  (names.filter (some · ≠ missing)).map fun name => (name, some "x")

/-- A registry of all pipes, or all but one. -/
def Registry.allBut (missing : Option String) : Registry :=
  fun pipe => if some pipe = missing then none else some id

/-- Of the values for all but one of some names, only that one is missing. -/
theorem Values.find?_allBut_eq_none_iff {missing : Option String} {names : List String}
    {name : String} :
    (allBut missing names).find? name = none ↔ name ∈ names → some name = missing := by
  rw [find?, Resolution.lookup_eq_none_iff_not_mem, allBut, List.map_map]
  simp [Function.comp_def]

/-- Of all pipes but one, only that one is missing. -/
theorem Registry.allBut_eq_none_iff {missing : Option String} {pipe : String} :
    allBut missing pipe = none ↔ some pipe = missing := by
  simp [allBut]

/-- The values for all but one of some names are not empty. -/
theorem Values.ne_empty_of_get_allBut {missing : Option String} {names : List String}
    {name value : String} (h : (allBut missing names).get name = .ok value) : value ≠ "" := by
  rw [get] at h
  split at h
  · cases h
  · next given hgiven =>
    obtain ⟨before, after, hsplit, -⟩ := List.lookup_eq_some_iff.1 hgiven
    have hmem : (name, given) ∈ allBut missing names := by
      rw [hsplit]
      exact List.mem_append_right before List.mem_cons_self
    obtain ⟨other, -, heq⟩ := List.mem_map.1 hmem
    cases heq
    cases h
    decide

/-- If a single parameter of a template is missing, it is asked for. -/
theorem render_without_parameter {name : String} (h : name ∈ t.parameters) :
    render (.allBut none) (.allBut (some name) t.names) t = .error (.unbound name) := by
  cases hrender : render (.allBut none) (.allBut (some name) t.names) t with
  | ok written =>
    obtain ⟨hknown, -⟩ := complete_of_renderIn (fun _ _ => Values.ne_empty_of_get_allBut) hrender
    have hsome := hknown name (mem_parameters_iff.1 h)
    rw [Values.find?_allBut_eq_none_iff.2 fun _ => rfl] at hsome
    cases hsome
  | error e =>
    rcases exists_of_render_eq_error hrender with
      ⟨other, hother, hnone, rfl⟩ | ⟨pipe, -, hnone, -⟩
    · have hsame := Values.find?_allBut_eq_none_iff.1 hnone (mem_parameters_iff.1 hother)
      cases hsame
      rfl
    · cases Registry.allBut_eq_none_iff.1 hnone

/-- If a single pipe of a template is missing, it is asked for. -/
theorem render_without_pipe {pipe : String} (h : pipe ∈ t.pipes) :
    render (.allBut (some pipe)) (.allBut none t.names) t = .error (.unknownPipe pipe) := by
  cases hrender : render (.allBut (some pipe)) (.allBut none t.names) t with
  | ok written =>
    obtain ⟨-, hhas⟩ := complete_of_renderIn (fun _ _ => Values.ne_empty_of_get_allBut) hrender
    have hsome := hhas pipe (mem_pipes_iff.1 h)
    rw [Registry.allBut_eq_none_iff.2 rfl] at hsome
    cases hsome
  | error e =>
    rcases exists_of_render_eq_error hrender with
      ⟨name, hname, hnone, -⟩ | ⟨other, -, hnone, rfl⟩
    · cases Values.find?_allBut_eq_none_iff.1 hnone (mem_parameters_iff.1 hname)
    · cases Registry.allBut_eq_none_iff.1 hnone
      rfl

/-- Filling in a template asks for what it refers to and for nothing else.  Values for its
parameters and a registry with its pipes are enough.  It fails only for one of the parameters
that has no value, or for one of the pipes that the registry lacks, and each of them may be the
one.  Values and registries that agree on its parameters and pipes come to the same. -/
theorem asks_for_what_it_refers_to (t : Template) :
    (∀ registry values, values.Defines t → registry.Has t →
      ∃ written, render registry values t = .ok written) ∧
    (∀ registry values e, render registry values t = .error e →
      (∃ name ∈ t.parameters, values.find? name = none ∧ e = .unbound name) ∨
        ∃ pipe ∈ t.pipes, registry pipe = none ∧ e = .unknownPipe pipe) ∧
    (∀ name ∈ t.parameters, ∃ registry values, render registry values t = .error (.unbound name)) ∧
    (∀ pipe ∈ t.pipes, ∃ registry values, render registry values t = .error (.unknownPipe pipe)) ∧
    ∀ registry registry' values others,
      (∀ name ∈ t.parameters, values.get name = others.get name) →
      (∀ pipe ∈ t.pipes, registry pipe = registry' pipe) →
      render registry values t = render registry' others t := by
  refine ⟨fun registry values => exists_render_of_defines,
    fun registry values e => exists_of_render_eq_error,
    fun name hname => ⟨_, _, render_without_parameter hname⟩,
    fun pipe hpipe => ⟨_, _, render_without_pipe hpipe⟩, ?_⟩
  intro registry registry' values others hvalues hpipes
  refine renderIn_eq_of_agree (fun name hname => ?_) (fun pipe hpipe => ?_) ""
  · exact hvalues name (mem_parameters_iff.2 hname)
  · exact hpipes pipe (mem_pipes_iff.2 hpipe)

/-- A word is said with a registry that has its one pipe, and without that pipe only if there is
no word. -/
theorem saying_asks_for_pipe :
    Values.Defines [("word", some "hi")] saying ∧ banging.Has saying ∧
    (∃ written, render banging [("word", some "hi")] saying = .ok written) ∧
    render (fun _ => none) [("word", some "hi")] saying = .error (.unknownPipe "bang") ∧
    render (fun _ => none) [("word", none)] saying = .ok "" := by
  have hvalues : Values.Defines [("word", some "hi")] saying := by decide
  have hpipes : banging.Has saying := by decide
  refine ⟨hvalues, hpipes, (asks_for_what_it_refers_to saying).1 _ _ hvalues hpipes, ?_, ?_⟩
  · decide
  · decide

end Tweaks.Template
