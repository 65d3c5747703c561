import Tweaks.Proofs.Loading
import Tweaks.Resolution.Basic

/-!
# What a step can fail of

Resolving goes through a few steps with each function: its arguments are bound, and
templates are filled in.  Each of them fails for a reason that can be read off the
function, the call and the registry.

Main results:

- `Template.lacks_of_renderIn`: what a template lacks that cannot be filled in.
- `Function.mem_templates_iff`: the templates of a function, as a list.
- `badTemplate_of_fill`, `exists_badTemplate_of_leaf`,
  `badTemplate_of_fillArguments`: filling in templates.
- `badCall_of_bindArguments`: binding arguments.
-/

namespace Tweaks

open Stepwise

/-! ## Templates -/

namespace Template

/-- What is missing where a template cannot be filled in: the value of a parameter, or a
pipe. -/
inductive Lacks (registry : Registry) (values : Values) (t : Template) : RenderError → Prop
  | value {name : String} (used : name ∈ t.names) (missing : values.find? name = none) :
      Lacks registry values t (.unbound name)
  | pipe {name : String} (used : name ∈ t.pipeNames) (missing : registry name = none) :
      Lacks registry values t (.unknownPipe name)

variable {registry : Registry} {values : Values}

/-- What a part of a template lacks, the whole lacks. -/
theorem Lacks.mono {part whole : Template} {e : RenderError} (h : Lacks registry values part e)
    (hnames : part.names ⊆ whole.names) (hpipes : part.pipeNames ⊆ whole.pipeNames) :
    Lacks registry values whole e := by
  cases h with
  | value used missing => exact .value (hnames used) missing
  | pipe used missing => exact .pipe (hpipes used) missing

/-- A value that is missed is not among the values. -/
theorem find?_of_get_eq_error {name : String} {e : RenderError}
    (h : values.get name = .error e) : values.find? name = none ∧ e = .unbound name := by
  rw [Values.get] at h
  split at h
  · next hnone => cases h; exact ⟨hnone, rfl⟩
  · cases h

/-- A pipe that is missed is not in the registry. -/
theorem exists_of_applyPipes_eq_error {pipes : List String} {value : String}
    {e : RenderError} (h : applyPipes registry pipes value = .error e) :
    ∃ pipe ∈ pipes, registry pipe = none ∧ e = .unknownPipe pipe := by
  induction pipes generalizing value with
  | nil => cases h
  | cons pipe pipes ih =>
    rw [applyPipes] at h
    split at h
    · next hnone => cases h; exact ⟨pipe, List.mem_cons_self, hnone, rfl⟩
    · obtain ⟨other, hother, hnone, he⟩ := ih h
      exact ⟨other, List.mem_cons_of_mem pipe hother, hnone, he⟩

/-- A template that cannot be filled in lacks what the error says. -/
theorem lacks_of_renderIn {dot : String} {t : Template} {e : RenderError}
    (h : renderIn registry values dot t = .error e) : Lacks registry values t e := by
  induction t generalizing dot with
  | done => cases h
  | text value rest ih =>
    rcases error_or_exists_of_bind_eq_error h with hrest | ⟨after, -, h⟩
    · exact (ih hrest).mono (List.Subset.refl _) (List.Subset.refl _)
    · cases h
  | hole parameter pipes rest ih =>
    rcases error_or_exists_of_bind_eq_error h with hsubject | ⟨value, -, h⟩
    · cases parameter with
      | none => cases hsubject
      | some parameter =>
        obtain ⟨hnone, rfl⟩ := find?_of_get_eq_error hsubject
        exact .value (by simp [names]) hnone
    rcases error_or_exists_of_bind_eq_error h with hpipes | ⟨shown, -, h⟩
    · obtain ⟨pipe, hpipe, hnone, rfl⟩ := exists_of_applyPipes_eq_error hpipes
      exact .pipe (List.mem_append_left _ hpipe) hnone
    rcases error_or_exists_of_bind_eq_error h with hrest | ⟨after, -, h⟩
    · exact (ih hrest).mono (List.subset_append_right _ _) (List.subset_append_right _ _)
    · cases h
  | block parameter body rest ihBody ihRest =>
    rcases error_or_exists_of_bind_eq_error h with hget | ⟨value, -, h⟩
    · obtain ⟨hnone, rfl⟩ := find?_of_get_eq_error hget
      exact .value (by simp [names]) hnone
    rcases error_or_exists_of_bind_eq_error h with hbody | ⟨shown, -, h⟩
    · split at hbody
      · cases hbody
      · refine (ihBody hbody).mono ?_ (List.subset_append_left _ _)
        exact List.subset_cons_of_subset _ (List.subset_append_left _ _)
    rcases error_or_exists_of_bind_eq_error h with hrest | ⟨after, -, h⟩
    · refine (ihRest hrest).mono ?_ (List.subset_append_right _ _)
      exact List.subset_cons_of_subset _ (List.subset_append_right _ _)
    · cases h

end Template

/-- A template belongs to a function: to its code, to the code that undoes it, or to an
argument of a call inside it. -/
inductive Function.HasTemplate (f : Function) (t : Template) : Prop
  | code (own : f.code = some t)
  | revertCode (own : f.revertCode = some t)
  | argument {site : Call} {argument : String × String} (inside : site ∈ f.calls)
      (passed : argument ∈ site.arguments) (parses : Template.parse argument.2 = .ok t)

/-- The templates of a function. -/
def Function.templates (f : Function) : List Template :=
  f.code.toList ++ f.revertCode.toList ++ f.calls.flatMap fun site =>
    site.arguments.filterMap fun argument => (Template.parse argument.2).toOption

/-- The templates of a function are those that belong to it. -/
theorem Function.mem_templates_iff {f : Function} {t : Template} :
    t ∈ f.templates ↔ f.HasTemplate t := by
  have hparse (source : String) :
      (Template.parse source).toOption = some t ↔ Template.parse source = .ok t := by
    cases Template.parse source <;> simp [Except.toOption]
  simp only [templates, List.mem_append, Option.mem_toList, List.mem_flatMap,
    List.mem_filterMap, hparse]
  constructor
  · rintro ((own | own) | ⟨site, inside, argument, passed, parses⟩)
    · exact .code own
    · exact .revertCode own
    · exact .argument inside passed parses
  · rintro (own | own | ⟨inside, passed, parses⟩)
    · exact .inl (.inl own)
    · exact .inl (.inr own)
    · exact .inr ⟨_, inside, _, passed, parses⟩

namespace Resolution

variable {registry : Template.Registry} {f : Function} {values : Template.Values}

/-! ## Filling in templates -/

/-- What is wrong with a template of a function that cannot be filled in: it refers to a
parameter that the function does not declare, or uses a pipe that the registry lacks. -/
inductive BadTemplate (registry : Template.Registry) (f : Function) (t : Template) :
    Failure → Prop
  | undeclared {name : String} (used : name ∈ t.names) (missing : name ∉ f.parameterNames) :
      BadTemplate registry f t (.error (.undeclaredParameter f.name name))
  | pipe {name : String} (used : name ∈ t.pipeNames) (missing : registry name = none) :
      BadTemplate registry f t (.error (.unknownPipe name f.name))

/-- Values that a function's arguments are bound to are those of its parameters. -/
theorem names_of_bindArguments {arguments : List (String × String)}
    (h : bindArguments f arguments = .ok values) :
    values.map Prod.fst = f.parameterNames := by
  rw [bindArguments] at h
  split at h
  · cases h
  · exact bindParameters_names h

/-- Exactly the names that are not listed have no entry. -/
theorem lookup_eq_none_iff_not_mem {α : Type} {entries : List (String × α)} {name : String} :
    entries.lookup name = none ↔ name ∉ entries.map Prod.fst := by
  rw [List.lookup_eq_none_iff, List.mem_map]
  constructor
  · rintro h ⟨entry, hentry, rfl⟩
    simpa using h entry hentry
  · intro h entry hentry
    rw [bne_iff_ne]
    rintro rfl
    exact h ⟨entry, hentry, rfl⟩

/-- A template that cannot be filled in with a function's values is wrong. -/
theorem badTemplate_of_fill (hnames : values.map Prod.fst = f.parameterNames) {t : Template}
    {failure : Failure} (h : fill registry f values t = .error failure) :
    BadTemplate registry f t failure := by
  rw [fill] at h
  split at h
  · next name hundeclared =>
    cases h
    rw [undeclared?] at hundeclared
    have hused := Text.mem_sortDistinct.1 (List.mem_of_find?_eq_some hundeclared)
    have hnone := List.find?_some hundeclared
    rw [Option.isNone_iff_eq_none, Template.Values.find?, lookup_eq_none_iff_not_mem,
      hnames] at hnone
    exact .undeclared hused hnone
  · next hdeclared =>
    split at h
    · cases h
    · next pipe hrender =>
      cases h
      cases Template.lacks_of_renderIn hrender with
      | pipe used missing => exact .pipe used missing
    · next name hrender =>
      -- Every parameter has its place among the values, as was checked before.
      cases Template.lacks_of_renderIn hrender with
      | value used missing =>
        rw [undeclared?, List.find?_eq_none] at hdeclared
        have hplace := hdeclared name (Text.mem_sortDistinct.2 used)
        rw [missing] at hplace
        exact absurd rfl hplace

/-- Arguments inside a function that cannot be filled in are no templates, or wrong
ones. -/
theorem badTemplate_of_fillArguments (hnames : values.map Prod.fst = f.parameterNames)
    {arguments : List (String × String)} {failure : Failure}
    (h : fillArguments registry f values arguments = .error failure) :
    ∃ argument ∈ arguments,
      (∃ e, Template.parse argument.2 = .error e ∧ failure = .argument e) ∨
        ∃ t, Template.parse argument.2 = .ok t ∧ BadTemplate registry f t failure := by
  induction arguments with
  | nil => cases h
  | cons first rest ih =>
    obtain ⟨name, source⟩ := first
    rcases error_or_exists_of_bind_eq_error h with hparse | ⟨t, hparse, h⟩
    · split at hparse
      · cases hparse
      · next e he =>
        cases hparse
        exact ⟨_, List.mem_cons_self, .inl ⟨e, he, rfl⟩⟩
    rcases error_or_exists_of_bind_eq_error h with hfill | ⟨text, -, h⟩
    · split at hparse
      · next t' ht =>
        cases hparse
        exact ⟨_, List.mem_cons_self, .inr ⟨t, ht, badTemplate_of_fill hnames hfill⟩⟩
      · cases hparse
    rcases error_or_exists_of_bind_eq_error h with hrest | ⟨others, -, h⟩
    · obtain ⟨argument, hmem, hbad⟩ := ih hrest
      exact ⟨argument, List.mem_cons_of_mem _ hmem, hbad⟩
    · cases h

/-- Arguments that are filled in are passed to the same parameters. -/
theorem names_of_fillArguments {arguments texts : List (String × String)}
    (h : fillArguments registry f values arguments = .ok texts) :
    texts.map Prod.fst = arguments.map Prod.fst := by
  induction arguments generalizing texts with
  | nil => cases h; rfl
  | cons first rest ih =>
    obtain ⟨t, -, h⟩ := exists_of_bind_eq_ok h
    obtain ⟨text, -, h⟩ := exists_of_bind_eq_ok h
    obtain ⟨others, hothers, h⟩ := exists_of_bind_eq_ok h
    cases h
    rw [List.map_cons, List.map_cons, ih hothers]

/-- A function whose own templates cannot be filled in has a wrong one. -/
theorem exists_badTemplate_of_leaf (hnames : values.map Prod.fst = f.parameterNames)
    {failure : Failure} (h : leaf registry f values = .error failure) :
    ∃ t, f.HasTemplate t ∧ BadTemplate registry f t failure := by
  rcases error_or_exists_of_bind_eq_error h with hcode | ⟨code, -, h⟩
  · rw [leafCode] at hcode
    split at hcode
    · cases hcode
    · next t ht =>
      exact ⟨t, .code ht, badTemplate_of_fill hnames (eq_error_of_map_eq_error hcode)⟩
  rcases error_or_exists_of_bind_eq_error h with hrevert | ⟨revert, -, h⟩
  · rw [leafRevertCode] at hrevert
    split at hrevert
    · cases hrevert
    · next t ht =>
      exact ⟨t, .revertCode ht, badTemplate_of_fill hnames (eq_error_of_map_eq_error hrevert)⟩
  · cases h

/-! ## Binding arguments -/

/-- What is wrong with arguments that do not fit a function: one is for a parameter that
the function does not declare, or a required parameter gets none or the empty text. -/
inductive BadCall (f : Function) (arguments : List (String × String)) : Failure → Prop
  | unexpected {name : String} (passed : name ∈ arguments.map Prod.fst)
      (missing : name ∉ f.parameterNames) :
      BadCall f arguments (.error (.unexpectedArgument f.name name))
  | missing {p : Parameter} (declared : p ∈ f.parameters) (required : p.required)
      (empty : arguments.lookup p.name = none ∨ arguments.lookup p.name = some "") :
      BadCall f arguments (.error (.missingArgument f.name p.name))

/-- A parameter that gets no value is required, and is passed nothing or the empty
text. -/
theorem required_of_parameterValue {function : String} {p : Parameter}
    {given : Option String} {failure : Failure}
    (h : parameterValue function p given = .error failure) :
    p.required ∧ (given = none ∨ given = some "") ∧
      failure = .error (.missingArgument function p.name) := by
  simp only [parameterValue] at h
  split at h
  · next value =>
    split at h
    · next hempty =>
      cases h
      rw [Bool.and_eq_true, String.isEmpty_iff] at hempty
      exact ⟨hempty.2, .inr (by rw [hempty.1]), rfl⟩
    · cases h
  · split at h
    · cases h
    · next hdefault =>
      split at h
      · cases h
      · next hoptional =>
        cases h
        exact ⟨by simp [Parameter.required, hdefault, hoptional], .inl rfl, rfl⟩

/-- Parameters that cannot be bound have one among them that gets no value. -/
theorem exists_of_bindParameters_eq_error {function : String}
    {arguments : List (String × String)} {parameters : List Parameter} {failure : Failure}
    (h : bindParameters function arguments parameters = .error failure) :
    ∃ p ∈ parameters,
      parameterValue function p (arguments.lookup p.name) = .error failure := by
  induction parameters with
  | nil => cases h
  | cons p rest ih =>
    rcases error_or_exists_of_bind_eq_error h with hvalue | ⟨value, -, h⟩
    · exact ⟨p, List.mem_cons_self, hvalue⟩
    rcases error_or_exists_of_bind_eq_error h with hrest | ⟨others, -, h⟩
    · obtain ⟨other, hother, hvalue⟩ := ih hrest
      exact ⟨other, List.mem_cons_of_mem p hother, hvalue⟩
    · cases h

/-- Arguments that cannot be bound to a function's parameters do not fit. -/
theorem badCall_of_bindArguments {arguments : List (String × String)} {failure : Failure}
    (h : bindArguments f arguments = .error failure) : BadCall f arguments failure := by
  rw [bindArguments] at h
  split at h
  · next name hunexpected =>
    cases h
    rw [unexpected?] at hunexpected
    have hmissing := List.find?_some hunexpected
    exact .unexpected (List.mem_of_find?_eq_some hunexpected) (by simpa using hmissing)
  · obtain ⟨p, hp, hvalue⟩ := exists_of_bindParameters_eq_error h
    obtain ⟨hrequired, hempty, rfl⟩ := required_of_parameterValue hvalue
    exact .missing hp hrequired hempty

end Resolution

end Tweaks
