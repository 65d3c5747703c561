import Tweaks.Proofs.Dot

/-!
# What a template shows

Filling in a template is a matter of two steps.  Which blocks stand depends on which parameters
have a value that is not empty, and on nothing else about the values.  The template then shows
stretches of its own text and values, each through its pipes.  What a value or a pipe brings is
written as it is: nothing of it is read as part of the template, and no other stretch depends on
it.

So for all values of which the same are empty a template shows the same stretches.

Main results:

- `renderIn_eq_write`: a template without dots renders to what it shows.
- `shown_congr`: what a template shows depends on which blocks stand.
- `literals_shown_sublist`, `literals_eq_texts`: the literal stretches are text of the source.
- `renderIn_eq_of_agree`: no more matters than the parameters and pipes that a template names.
- `renders_in_one_pass`: two values for the same template.
-/

namespace Tweaks.Template

/-! ## Stretches -/

/-- A stretch of what a template shows: text of the template, or the value of a parameter through
pipes. -/
inductive Stretch where
  | literal (text : String)
  | value (parameter : Option String) (pipes : List String)
deriving DecidableEq, Repr

/-- The pipes of a stretch. -/
def Stretch.pipes : Stretch → List String
  | literal _ => []
  | value _ pipes => pipes

/-- The text of a stretch that is literal. -/
def Stretch.literal? : Stretch → Option String
  | literal written => some written
  | value _ _ => none

/-- What a template without dots shows where it is known which blocks stand. -/
def shown (stands : String → Bool) : Template → List Stretch
  | done => []
  | text value rest => .literal value :: rest.shown stands
  | hole parameter pipes rest => .value parameter pipes :: rest.shown stands
  | block name body rest => (if stands name then body.shown stands else []) ++ rest.shown stands

/-- The text of a parameter: its value, or the empty text if it has none. -/
def Values.text (values : Values) (name : String) : String :=
  ((values.find? name).getD none).getD ""

/-- Values are known for all parameters of a template. -/
def Values.Defines (values : Values) (t : Template) : Prop :=
  ∀ name ∈ t.parameters, (values.find? name).isSome

instance (values : Values) (t : Template) : Decidable (values.Defines t) :=
  inferInstanceAs (Decidable (∀ name ∈ t.parameters, (values.find? name).isSome))

/-- A block stands where its parameter has a value that is not empty. -/
def Values.stands (values : Values) (name : String) : Bool :=
  !(values.text name).isEmpty

/-- What a template shows for given values, each dot as the parameter of its block. -/
def stretches (values : Values) (t : Template) : List Stretch :=
  (t.nameDots none).shown values.stands

/-- A value through pipes, the first one first. -/
def through (registry : Registry) (pipes : List String) (value : String) : String :=
  pipes.foldl (fun value pipe => (registry pipe).elim value fun f => f value) value

/-- The text of a stretch: its own, or the value of its parameter through its pipes. -/
def Stretch.fill (registry : Registry) (values : Values) : Stretch → String
  | literal written => written
  | value parameter pipes => through registry pipes (parameter.elim "" values.text)

/-- The text of stretches, one after the other. -/
def fillAll (registry : Registry) (values : Values) : List Stretch → String
  | [] => ""
  | stretch :: rest => stretch.fill registry values ++ fillAll registry values rest

/-- The first pipe of stretches that the registry lacks. -/
def lacking? (registry : Registry) (stretches : List Stretch) : Option String :=
  (stretches.flatMap Stretch.pipes).find? fun pipe => (registry pipe).isNone

/-- The text of stretches if the registry has all their pipes. -/
def write (registry : Registry) (values : Values) (stretches : List Stretch) :
    Except RenderError String :=
  match lacking? registry stretches with
  | some pipe => .error (.unknownPipe pipe)
  | none => .ok (fillAll registry values stretches)

/-- The text of two sequences of stretches. -/
@[simp]
theorem fillAll_append (registry : Registry) (values : Values) (s t : List Stretch) :
    fillAll registry values (s ++ t) = fillAll registry values s ++ fillAll registry values t := by
  induction s with
  | nil => simp [fillAll]
  | cons stretch rest ih => simp [fillAll, ih, String.append_assoc]

/-- Two sequences of stretches are written one after the other. -/
theorem write_append (registry : Registry) (values : Values) (s t : List Stretch) :
    write registry values (s ++ t) = (do
      let before ← write registry values s
      let after ← write registry values t
      return before ++ after) := by
  simp only [write, lacking?, List.flatMap_append, List.find?_append, fillAll_append]
  cases (s.flatMap Stretch.pipes).find? fun pipe => (registry pipe).isNone with
  | some pipe => rfl
  | none =>
    cases (t.flatMap Stretch.pipes).find? fun pipe => (registry pipe).isNone with
    | some pipe => rfl
    | none => rfl

/-- Literal text before other stretches. -/
theorem write_literal (registry : Registry) (values : Values) (written : String)
    (rest : List Stretch) :
    write registry values (.literal written :: rest) = (do
      let after ← write registry values rest
      return written ++ after) := by
  rw [← List.singleton_append, write_append]
  have hliteral : write registry values [.literal written] = .ok written := by
    simp [write, lacking?, Stretch.pipes, fillAll, Stretch.fill]
  rw [hliteral]
  rfl

/-- A value goes through pipes that the registry has, or else the first one that it lacks is the
error. -/
theorem applyPipes_eq (registry : Registry) (pipes : List String) (value : String) :
    applyPipes registry pipes value =
      match pipes.find? fun pipe => (registry pipe).isNone with
      | some pipe => .error (.unknownPipe pipe)
      | none => .ok (through registry pipes value) := by
  induction pipes generalizing value with
  | nil => rfl
  | cons pipe pipes ih =>
    cases hpipe : registry pipe with
    | none => simp [applyPipes, hpipe]
    | some f => simp [applyPipes, hpipe, ih, through]

/-- A value through pipes before other stretches. -/
theorem write_value (registry : Registry) (values : Values) (parameter : Option String)
    (pipes : List String) (rest : List Stretch) :
    write registry values (.value parameter pipes :: rest) = (do
      let shown ← applyPipes registry pipes (parameter.elim "" values.text)
      let after ← write registry values rest
      return shown ++ after) := by
  rw [← List.singleton_append, write_append]
  have hvalue : write registry values [.value parameter pipes] =
      applyPipes registry pipes (parameter.elim "" values.text) := by
    simp [write, lacking?, Stretch.pipes, fillAll, Stretch.fill, applyPipes_eq]
  rw [hvalue]

/-! ## Rendering -/

/-- What is known of a parameter is its text. -/
theorem Values.get_of_isSome {values : Values} {name : String}
    (h : (values.find? name).isSome) : values.get name = .ok (values.text name) := by
  obtain ⟨value, hvalue⟩ := Option.isSome_iff_exists.1 h
  rw [Values.get, Values.text, hvalue]
  rfl

/-- A template without dots renders to what it shows, if all its parameters are known. -/
theorem renderIn_eq_write (registry : Registry) {values : Values} {t : Template} (ht : t.NoDot)
    (hvalues : ∀ name ∈ t.names, (values.find? name).isSome) (dot : String) :
    renderIn registry values dot t = write registry values (t.shown values.stands) := by
  induction t generalizing dot with
  | done => rfl
  | text value rest ih =>
    rw [renderIn, shown, write_literal, ih ht hvalues]
  | hole parameter pipes rest ih =>
    obtain ⟨hparameter, hrest⟩ := ht
    obtain ⟨name, rfl⟩ := Option.ne_none_iff_exists'.1 hparameter
    have hget : values.subject dot (some name) = .ok (values.text name) :=
      Values.get_of_isSome (hvalues name (by simp [names]))
    rw [renderIn, shown, write_value, hget, Stepwise.bind_of_eq_ok rfl,
      ih hrest fun name hname => hvalues name (by simp [names, hname])]
    rfl
  | block name body rest ihBody ihRest =>
    obtain ⟨hbody, hrest⟩ := ht
    have hget : values.get name = .ok (values.text name) :=
      Values.get_of_isSome (hvalues name (by simp [names]))
    have hafter := ihRest hrest (fun name hname => hvalues name (by simp [names, hname])) dot
    have hinside := ihBody hbody (fun name hname => hvalues name (by simp [names, hname]))
      (values.text name)
    rw [renderIn, shown, write_append, hget, Stepwise.bind_of_eq_ok rfl, hafter, Values.stands]
    -- Whether the block stands is asked in the same way on both sides.
    cases (values.text name).isEmpty with
    | true => rfl
    | false =>
      rw [if_neg (by simp), hinside]
      rfl

/-- Naming the dots brings no parameter that is not one of a block around them. -/
theorem mem_names_of_nameDots {dot : Option String} {t : Template} {name : String}
    (h : name ∈ (t.nameDots dot).names) : name ∈ t.names ∨ dot = some name := by
  induction t generalizing dot with
  | done => cases h
  | text value rest ih => exact ih h
  | hole parameter pipes rest ih =>
    rw [nameDots, names, List.mem_append] at h
    rcases h with h | h
    · cases parameter with
      | none => exact .inr (by simpa using h)
      | some name' => exact .inl (by simp_all [names])
    · rcases ih h with h | h
      · exact .inl (by simp [names, h])
      · exact .inr h
  | block parameter body rest ihBody ihRest =>
    rw [nameDots, names, List.cons_append, List.mem_cons, List.mem_append] at h
    rcases h with rfl | h | h
    · exact .inl (by simp [names])
    · rcases ihBody h with h | h
      · exact .inl (by simp [names, h])
      · cases h
        exact .inl (by simp [names])
    · rcases ihRest h with h | h
      · exact .inl (by simp [names, h])
      · exact .inr h

/-- The parameters of a template, in the order of their names or of their appearance. -/
theorem mem_parameters_iff {t : Template} {name : String} :
    name ∈ t.parameters ↔ name ∈ t.names :=
  Text.mem_sortDistinct

/-- A template with dots that have blocks around them renders to what it shows. -/
theorem render_eq_write (registry : Registry) {values : Values} {t : Template}
    (ht : t.DotsInside) (hvalues : values.Defines t) :
    render registry values t = write registry values (t.stretches values) := by
  have hnamed : render registry values t = renderIn registry values "" (t.nameDots none) :=
    (renderIn_nameDots registry values (by simp) t).symm
  rw [hnamed]
  refine renderIn_eq_write registry ((noDot_nameDots_iff t).2 ht) ?_ ""
  intro name hname
  rcases mem_names_of_nameDots hname with hname | hname
  · exact hvalues name (mem_parameters_iff.2 hname)
  · cases hname

/-- What a template shows depends on which of the blocks on its parameters stand. -/
theorem shown_congr {stands stands' : String → Bool} {t : Template}
    (h : ∀ name ∈ t.names, stands name = stands' name) : t.shown stands = t.shown stands' := by
  induction t with
  | done => rfl
  | text value rest ih => rw [shown, shown, ih h]
  | hole parameter pipes rest ih =>
    rw [shown, shown, ih fun name hname => h name (by simp [names, hname])]
  | block name body rest ihBody ihRest =>
    rw [shown, shown, h name (by simp [names]),
      ihBody fun name hname => h name (by simp [names, hname]),
      ihRest fun name hname => h name (by simp [names, hname])]

/-- For values of which the same are empty a template shows the same stretches. -/
theorem stretches_congr {values others : Values} {t : Template}
    (h : ∀ name ∈ t.parameters, values.text name = "" ↔ others.text name = "") :
    t.stretches values = t.stretches others := by
  refine shown_congr fun name hname => ?_
  have hmem : name ∈ t.parameters := by
    rcases mem_names_of_nameDots hname with hname | hname
    · exact mem_parameters_iff.2 hname
    · cases hname
  have hempty : (values.text name).isEmpty = (others.text name).isEmpty := by
    rw [Bool.eq_iff_iff, String.isEmpty_iff, String.isEmpty_iff]
    exact h name hmem
  rw [Values.stands, Values.stands, hempty]

/-! ## What stretches are -/

/-- A value that a template without dots shows is that of one of its parameters. -/
theorem exists_name_of_mem_shown {stands : String → Bool} {t : Template} (ht : t.NoDot)
    {parameter : Option String} {pipes : List String}
    (h : .value parameter pipes ∈ t.shown stands) :
    ∃ name ∈ t.names, parameter = some name := by
  induction t with
  | done => cases h
  | text value rest ih =>
    rcases List.mem_cons.1 h with h | h
    · cases h
    · exact ih ht h
  | hole parameter' pipes' rest ih =>
    rcases List.mem_cons.1 h with h | h
    · cases h
      obtain ⟨name, rfl⟩ := Option.ne_none_iff_exists'.1 ht.1
      exact ⟨name, by simp [names], rfl⟩
    · obtain ⟨name, hname, heq⟩ := ih ht.2 h
      exact ⟨name, by simp [names, hname], heq⟩
  | block block body rest ihBody ihRest =>
    rcases List.mem_append.1 h with h | h
    · have hbody : .value parameter pipes ∈ body.shown stands := by
        split at h
        · exact h
        · cases h
      obtain ⟨name, hname, heq⟩ := ihBody ht.1 hbody
      exact ⟨name, by simp [names, hname], heq⟩
    · obtain ⟨name, hname, heq⟩ := ihRest ht.2 h
      exact ⟨name, by simp [names, hname], heq⟩

/-- The literal texts of a template, in order. -/
def literals : Template → List String
  | done => []
  | text value rest => value :: rest.literals
  | hole _ _ rest => rest.literals
  | block _ body rest => body.literals ++ rest.literals

/-- Naming the dots leaves the literal texts as they are. -/
theorem literals_nameDots (dot : Option String) (t : Template) :
    (t.nameDots dot).literals = t.literals := by
  induction t generalizing dot with
  | done => rfl
  | text value rest ih => rw [nameDots, literals, literals, ih]
  | hole parameter pipes rest ih => exact ih dot
  | block name body rest ihBody ihRest => rw [nameDots, literals, literals, ihBody, ihRest]

/-- The literal stretches that a template shows are literal texts of it, in their order. -/
theorem literals_shown_sublist (stands : String → Bool) (t : Template) :
    ((t.shown stands).filterMap Stretch.literal?).Sublist t.literals := by
  induction t with
  | done => exact List.Sublist.refl _
  | text value rest ih => exact ih.cons_cons value
  | hole parameter pipes rest ih => exact ih
  | block name body rest ihBody ihRest =>
    rw [shown, List.filterMap_append, literals]
    refine List.Sublist.append ?_ ihRest
    split
    · exact ihBody
    · exact List.nil_sublist _

/-- The text of a token that is no tag. -/
def Token.text? : Token → Option String
  | .text value => some (String.ofList value)
  | .tag _ _ _ => none

/-- The texts between the tags of a source, in order. -/
def texts (source : String) : List String :=
  (scan true source.toList).filterMap Token.text?

/-- The text of a piece that is no tag. -/
def Piece.text? : Piece → Option String
  | .text value => some value
  | .tag _ => none

/-- The pieces of a template that are no tags are its literal texts. -/
theorem filterMap_pieces (t : Template) : t.pieces.filterMap Piece.text? = t.literals := by
  induction t with
  | done => rfl
  | text value rest ih => simp [pieces, literals, Piece.text?, ih]
  | hole parameter pipes rest ih => simp [pieces, literals, List.filterMap_cons, Piece.text?, ih]
  | block name body rest ihBody ihRest =>
    simp [pieces, literals, List.filterMap_cons, Piece.text?, ihBody, ihRest]

/-- The literal texts of a template that was read are those between the tags of its source. -/
theorem literals_eq_texts {source : String} {t : Template} (h : parse source = .ok t) :
    t.literals = texts source := by
  rw [← filterMap_pieces, texts]
  have hreads := (parse_eq_ok_iff.1 h).2
  generalize scan true source.toList = tokens, t.pieces = pieces at hreads ⊢
  induction hreads with
  | nil => rfl
  | cons hread _ ih =>
    cases hread with
    | text value => exact congrArg (String.ofList value :: ·) ih
    | tag spelled => exact ih

/-- What stands between the tags of a source is a part of it. -/
theorem infix_of_mem_texts {source written : String} (h : written ∈ texts source) :
    written.toList <:+: source.toList := by
  obtain ⟨token, htoken, htext⟩ := List.mem_filterMap.1 h
  cases token with
  | tag lead inner trail => cases htext
  | text value =>
    cases htext
    obtain ⟨before, after, hsplit⟩ := List.append_of_mem htoken
    refine ⟨before.flatMap Token.source, after.flatMap Token.source, ?_⟩
    rw [← source_scan true source.toList, hsplit, String.toList_ofList, List.flatMap_append,
      List.flatMap_cons, Token.source, List.append_assoc]

/-! ## Two values -/

/-- The pipes that a value goes through are all that matters of a registry. -/
theorem applyPipes_congr {registry others : Registry} {pipes : List String}
    (h : ∀ pipe ∈ pipes, registry pipe = others pipe) (value : String) :
    applyPipes registry pipes value = applyPipes others pipes value := by
  induction pipes generalizing value with
  | nil => rfl
  | cons pipe pipes ih =>
    rw [applyPipes, applyPipes, h pipe List.mem_cons_self]
    cases others pipe with
    | none => rfl
    | some f => exact ih (fun pipe' hpipe' => h pipe' (List.mem_cons_of_mem pipe hpipe')) (f value)

/-- What is known of the parameters and the pipes that a template names is all that matters of
values and registries. -/
theorem renderIn_eq_of_agree {registry registry' : Registry} {values others : Values}
    {t : Template} (hvalues : ∀ name ∈ t.names, values.get name = others.get name)
    (hpipes : ∀ pipe ∈ t.pipeNames, registry pipe = registry' pipe) (dot : String) :
    renderIn registry values dot t = renderIn registry' others dot t := by
  induction t generalizing dot with
  | done => rfl
  | text value rest ih => rw [renderIn, renderIn, ih hvalues hpipes]
  | hole parameter pipes rest ih =>
    simp only [names, pipeNames, List.forall_mem_append] at hvalues hpipes
    have hsubject : values.subject dot parameter = others.subject dot parameter := by
      cases parameter with
      | none => rfl
      | some name => exact hvalues.1 name (by simp)
    simp only [renderIn, hsubject, applyPipes_congr hpipes.1, ih hvalues.2 hpipes.2]
  | block name body rest ihBody ihRest =>
    simp only [names, pipeNames, List.cons_append, List.forall_mem_cons,
      List.forall_mem_append] at hvalues hpipes
    obtain ⟨hname, hbody, hrest⟩ := hvalues
    simp only [renderIn, hname, ihBody hbody hpipes.1, ihRest hrest hpipes.2]

/-- What is known of the parameters is all that matters of values. -/
theorem renderIn_congr (registry : Registry) {values others : Values}
    (h : ∀ name, values.get name = others.get name) (dot : String) (t : Template) :
    renderIn registry values dot t = renderIn registry others dot t :=
  renderIn_eq_of_agree (fun name _ => h name) (fun _ _ => rfl) dot

/-- No value is the same as the empty text. -/
theorem get_none_eq_get_empty (values : Values) (name name' : String) :
    Values.get ((name, none) :: values) name' = Values.get ((name, some "") :: values) name' := by
  simp only [Values.get, Values.find?, List.lookup_cons]
  cases name' == name <;> rfl

/-- Rendering is a single pass that writes what it is given.  For values of which the same are
empty, a template that was read lacks the same pipe, or writes the same stretches: text of its
source as it is, and values of its parameters, each through its pipes.  A parameter without a
value is the same as one with the empty text. -/
theorem renders_in_one_pass {source : String} {t : Template} (h : parse source = .ok t)
    (registry : Registry) {values others : Values} (hvalues : values.Defines t)
    (hothers : others.Defines t)
    (halike : ∀ name ∈ t.parameters, values.text name = "" ↔ others.text name = "") :
    ((∃ pipe, registry pipe = none ∧ render registry values t = .error (.unknownPipe pipe) ∧
        render registry others t = .error (.unknownPipe pipe)) ∨
      (∀ stretch ∈ t.stretches values, ∀ pipe ∈ stretch.pipes, registry pipe ≠ none) ∧
        render registry values t = .ok (fillAll registry values (t.stretches values)) ∧
        render registry others t = .ok (fillAll registry others (t.stretches values))) ∧
    (((t.stretches values).filterMap Stretch.literal?).Sublist (texts source) ∧
      ∀ written ∈ texts source, written.toList <:+: source.toList) ∧
    (∀ parameter pipes, .value parameter pipes ∈ t.stretches values →
      ∃ name ∈ t.parameters, parameter = some name) ∧
    ∀ name, render registry ((name, none) :: values) t =
      render registry ((name, some "") :: values) t := by
  have hinside := dotsInside_of_parse h
  have hrender := render_eq_write registry hinside hvalues
  have hrender' := render_eq_write registry hinside hothers
  rw [← stretches_congr halike] at hrender'
  refine ⟨?_, ⟨?_, fun written => infix_of_mem_texts⟩, ?_, ?_⟩
  · rw [hrender, hrender', write, write]
    cases hlacking : lacking? registry (t.stretches values) with
    | some pipe =>
      have hpipe := List.find?_some hlacking
      exact .inl ⟨pipe, Option.isNone_iff_eq_none.1 hpipe, rfl, rfl⟩
    | none =>
      refine .inr ⟨fun stretch hstretch pipe hpipe hnone => ?_, rfl, rfl⟩
      have hhas := List.find?_eq_none.1 hlacking pipe (List.mem_flatMap_of_mem hstretch hpipe)
      exact hhas (Option.isNone_iff_eq_none.2 hnone)
  · have hsublist := literals_shown_sublist values.stands (t.nameDots none)
    rw [literals_nameDots, literals_eq_texts h] at hsublist
    exact hsublist
  · intro parameter pipes hmem
    obtain ⟨name, hname, heq⟩ :=
      exists_name_of_mem_shown ((noDot_nameDots_iff t).2 hinside) hmem
    rcases mem_names_of_nameDots hname with hname | hname
    · exact ⟨name, mem_parameters_iff.2 hname, heq⟩
    · cases hname
  · intro name
    exact renderIn_congr registry (get_none_eq_get_empty values name) "" t

/-- A template that says a word, if there is one, through a pipe. -/
def saying : Template :=
  block "word" (text "say " (hole none ["bang"] done)) done

/-- The pipe of the template that says a word. -/
def banging : Registry := fun pipe =>
  if pipe = "bang" then some (· ++ "!") else none

/-- A word that looks like the end of a block is said as any other word is. -/
theorem saying_in_one_pass :
    parse "{{ with $word }}say {{ . | bang }}{{ end }}" = .ok saying ∧
    Values.Defines [("word", some "hi")] saying ∧
    Values.Defines [("word", some "{{ end }}")] saying ∧
    (∀ name ∈ saying.parameters, Values.text [("word", some "hi")] name = "" ↔
      Values.text [("word", some "{{ end }}")] name = "") ∧
    render banging [("word", some "{{ end }}")] saying =
      .ok (fillAll banging [("word", some "{{ end }}")]
        [.literal "say ", .value (some "word") ["bang"]]) := by
  have hparse : parse "{{ with $word }}say {{ . | bang }}{{ end }}" = .ok saying := by
    decide +kernel
  have hvalues : Values.Defines [("word", some "hi")] saying := by decide
  have hothers : Values.Defines [("word", some "{{ end }}")] saying := by decide
  have halike : ∀ name ∈ saying.parameters, Values.text [("word", some "hi")] name = "" ↔
      Values.text [("word", some "{{ end }}")] name = "" := by decide
  refine ⟨hparse, hvalues, hothers, halike, ?_⟩
  rcases (renders_in_one_pass hparse banging hvalues hothers halike).1 with hlacks | hwritten
  · obtain ⟨pipe, -, herror, -⟩ := hlacks
    have hsaid : render banging [("word", some "hi")] saying = .ok "say hi!" := by decide
    rw [hsaid] at herror
    cases herror
  · exact hwritten.2.2

end Tweaks.Template
