import Mathlib.Data.List.Nodup
import Tweaks.Collection.Decode

/-!
# What a decoded collection guarantees

Decoding checks more than the shape of each part: names are distinct across the
whole collection, and the arguments of calls inside functions are templates.  It goes
through a document in steps, the first of which that fails is the answer; so does
whatever else may fail.

Main results:

- `Stepwise.exists_of_bind_eq_ok`, `Stepwise.error_or_exists_of_bind_eq_error`: what
  succeeds behind a first step, and where what fails does so.
- `Stepwise.mapM_eq_ok_iff`, `Stepwise.exists_first_of_mapM_eq_error`,
  `Stepwise.exists_mapM_eq_ok_iff`: doing the same with every item of a list.
- `map_snd_scriptPlaces`, `map_snd_allScriptPlaces`: the places that are checked for
  repeated names are those of all scripts.
- `parses_of_function`, `calls_or_code_of_function`: the arguments inside a decoded
  function are templates, and it has either calls or code.
- `exists_definitions_of_ofDocument`, `loaded_of_ofDocument`: what holds of every decoded
  collection.
- `ofDocument_sample`, `ofDocument_greeting`: small documents and their collections.
-/

namespace Tweaks

/-! ## Steps that may fail -/

namespace Stepwise

variable {ε α β : Type}

/-- What succeeds behind a first step goes on from the value of that step. -/
theorem exists_of_bind_eq_ok {first : Except ε α} {next : α → Except ε β} {result : β}
    (h : first >>= next = .ok result) :
    ∃ value, first = .ok value ∧ next value = .ok result := by
  cases first with
  | error e => cases h
  | ok value => exact ⟨value, rfl, h⟩

/-- Two steps succeed exactly where the first does and the next goes on from its value. -/
theorem bind_eq_ok_iff {first : Except ε α} {next : α → Except ε β} {result : β} :
    first >>= next = .ok result ↔ ∃ value, first = .ok value ∧ next value = .ok result := by
  constructor
  · exact exists_of_bind_eq_ok
  · rintro ⟨value, rfl, h⟩
    exact h

/-- Behind a first step that succeeds, the next goes on from its value. -/
theorem bind_of_eq_ok {first : Except ε α} {value : α} (h : first = .ok value)
    (next : α → Except ε β) : first >>= next = next value := by
  rw [h]
  rfl

/-- What fails does so in its first step, or behind it. -/
theorem error_or_exists_of_bind_eq_error {first : Except ε α} {next : α → Except ε β} {e : ε}
    (h : first >>= next = .error e) :
    first = .error e ∨ ∃ value, first = .ok value ∧ next value = .error e := by
  cases first with
  | error e' => cases h; exact .inl rfl
  | ok value => exact .inr ⟨value, rfl, h⟩

/-- What goes on from what is made of a value goes on from the value. -/
theorem map_bind {γ : Type} (first : Except ε α) (f : α → β) (next : β → Except ε γ) :
    (first.map f >>= next) = first >>= fun value => next (f value) := by
  cases first <;> rfl

/-- A step with a value has succeeded with it. -/
theorem eq_ok_of_toOption {first : Except ε α} {value : α} (h : first.toOption = some value) :
    first = .ok value := by
  cases first with
  | error e => cases h
  | ok value' => cases h; rfl

/-- What is made of the value of a step succeeds only with the step. -/
theorem exists_of_map_eq_ok {first : Except ε α} {f : α → β} {result : β}
    (h : first.map f = .ok result) : ∃ value, first = .ok value ∧ result = f value := by
  cases first with
  | error e => cases h
  | ok value => cases h; exact ⟨value, rfl, rfl⟩

/-- What is made of the value of a step fails only with the step. -/
theorem eq_error_of_map_eq_error {first : Except ε α} {f : α → β} {e : ε}
    (h : first.map f = .error e) : first = .error e := by
  cases first with
  | error e' => cases h; rfl
  | ok value => cases h

/-- One item more is done first, and the others only if that succeeds. -/
theorem mapM_cons (f : α → Except ε β) (first : α) (rest : List α) :
    (first :: rest).mapM f =
      match f first with
      | .error e => .error e
      | .ok value => (rest.mapM f).map (value :: ·) := by
  rw [List.mapM_cons]
  cases f first with
  | error e => rfl
  | ok value => cases rest.mapM f <;> rfl

/-- Doing the same with every item succeeds exactly where it does with each, and gives
their values in order. -/
theorem mapM_eq_ok_iff {f : α → Except ε β} {items : List α} {values : List β} :
    items.mapM f = .ok values ↔ items.map f = values.map .ok := by
  induction items generalizing values with
  | nil =>
    constructor
    · intro h
      cases h
      rfl
    · intro h
      rw [List.map_nil, eq_comm, List.map_eq_nil_iff] at h
      rw [h]
      rfl
  | cons first rest ih =>
    rw [mapM_cons]
    cases hfirst : f first with
    | error e => cases values <;> simp [hfirst]
    | ok value =>
      cases values with
      | nil => cases rest.mapM f <;> simp [Except.map]
      | cons other others =>
        rw [List.map_cons, List.map_cons, hfirst, List.cons.injEq, Except.ok.injEq, ← ih]
        cases rest.mapM f <;> simp [Except.map]

/-- Behind items with which it succeeds, one with which it fails is the end. -/
theorem mapM_eq_error_of_first {f : α → Except ε β} {before after : List α} {item : α} {e : ε}
    (hbefore : ∀ earlier ∈ before, ∃ value, f earlier = .ok value) (hitem : f item = .error e) :
    (before ++ item :: after).mapM f = .error e := by
  induction before with
  | nil => rw [List.nil_append, mapM_cons, hitem]
  | cons first rest ih =>
    obtain ⟨value, hvalue⟩ := hbefore first List.mem_cons_self
    have hrest := ih fun earlier hearlier => hbefore earlier (List.mem_cons_of_mem first hearlier)
    rw [List.cons_append, mapM_cons, hvalue, hrest]
    rfl

/-- What fails for some item fails for a first one. -/
theorem exists_first_of_mapM_eq_error {f : α → Except ε β} {items : List α} {e : ε}
    (h : items.mapM f = .error e) :
    ∃ before item after, items = before ++ item :: after ∧
      (∀ earlier ∈ before, ∃ value, f earlier = .ok value) ∧ f item = .error e := by
  induction items with
  | nil => cases h
  | cons first rest ih =>
    rw [mapM_cons] at h
    cases hfirst : f first with
    | error e' =>
      rw [hfirst] at h
      cases h
      exact ⟨[], first, rest, rfl, by simp, hfirst⟩
    | ok value =>
      rw [hfirst] at h
      cases hrest : rest.mapM f with
      | ok values =>
        rw [hrest] at h
        cases h
      | error e' =>
        rw [hrest] at h
        cases h
        obtain ⟨before, item, after, rfl, hbefore, hitem⟩ := ih hrest
        refine ⟨first :: before, item, after, rfl, ?_, hitem⟩
        intro earlier hearlier
        rcases List.mem_cons.1 hearlier with rfl | hearlier
        · exact ⟨value, hfirst⟩
        · exact hbefore earlier hearlier

/-- Doing the same with every item succeeds exactly where it does with each. -/
theorem exists_mapM_eq_ok_iff {f : α → Except ε β} {items : List α} :
    (∃ values, items.mapM f = .ok values) ↔ ∀ item ∈ items, ∃ value, f item = .ok value := by
  constructor
  · rintro ⟨values, hvalues⟩ item hitem
    have hmem : f item ∈ values.map .ok := mapM_eq_ok_iff.1 hvalues ▸ List.mem_map_of_mem hitem
    obtain ⟨value, -, hvalue⟩ := List.mem_map.1 hmem
    exact ⟨value, hvalue.symm⟩
  · intro h
    cases hvalues : items.mapM f with
    | ok values => exact ⟨values, rfl⟩
    | error e =>
      obtain ⟨before, item, after, rfl, -, hitem⟩ := exists_first_of_mapM_eq_error hvalues
      obtain ⟨value, hvalue⟩ := h item (by simp)
      cases hvalue.symm.trans hitem

end Stepwise

/-! ## Decoded collections -/

/-- What decoding makes sure of across a collection. -/
structure Collection.Loaded (c : Collection) : Prop where
  functions_nodup : (c.functions.map Function.name).Nodup
  scripts_nodup : (c.scripts.map Script.name).Nodup
  arguments_parse : ∀ f ∈ c.functions, ∀ call ∈ f.calls, ∀ argument ∈ call.arguments,
    ∃ t, Template.parse argument.2 = .ok t
  calls_or_code : ∀ f ∈ c.functions, f.calls = [] ↔ ∃ t, f.code = some t

/-- A function with calls has no code of its own. -/
theorem Collection.Loaded.code_eq_none {c : Collection} (h : c.Loaded) {f : Function}
    (hf : f ∈ c.functions) (hcalls : f.calls ≠ []) : f.code = none := by
  rw [Option.eq_none_iff_forall_ne_some]
  intro t ht
  exact hcalls ((h.calls_or_code f hf).2 ⟨t, ht⟩)

namespace Decode

open Stepwise

/-- What comes out of the items of a list was decoded from one of them. -/
theorem exists_of_mem_each {α : Type} {decode : Location → Document → Result α}
    {location : Location} {i : Nat} {items : List Document} {results : List α}
    (h : each decode location i items = .ok results) {a : α} (ha : a ∈ results) :
    ∃ place, ∃ d ∈ items, decode place d = .ok a := by
  induction items generalizing i results with
  | nil => cases h; cases ha
  | cons d items ih =>
    obtain ⟨first, hfirst, h⟩ := exists_of_bind_eq_ok h
    obtain ⟨rest, hrest, h⟩ := exists_of_bind_eq_ok h
    cases h
    rcases List.mem_cons.1 ha with rfl | ha
    · exact ⟨location.item i, d, List.mem_cons_self, hfirst⟩
    · obtain ⟨place, other, hother, hdecode⟩ := ih hrest ha
      exact ⟨place, other, List.mem_cons_of_mem d hother, hdecode⟩

/-! ## Arguments -/

/-- A source that is decoded as a template is one. -/
theorem parse_of_template {location : Location} {source : String} {t : Template}
    (h : template location source = .ok t) : Template.parse source = .ok t := by
  rw [template] at h
  split at h
  · next t' ht' => cases h; exact ht'
  · cases h

/-- Arguments that pass the check are templates. -/
theorem parses_of_checkArguments {location : Location} {arguments : List (String × String)}
    (h : checkArguments location arguments = .ok ()) :
    ∀ argument ∈ arguments, ∃ t, Template.parse argument.2 = .ok t := by
  induction arguments with
  | nil => simp
  | cons first rest ih =>
    obtain ⟨t, ht, h⟩ := exists_of_bind_eq_ok h
    intro argument hmem
    rcases List.mem_cons.1 hmem with rfl | hmem
    · exact ⟨t, parse_of_template ht⟩
    · exact ih h argument hmem

/-- The arguments of calls that pass the check are templates. -/
theorem parses_of_checkCalls {place : Nat → Location} {i : Nat} {calls : List Call}
    (h : checkCalls place i calls = .ok ()) :
    ∀ call ∈ calls, ∀ argument ∈ call.arguments, ∃ t, Template.parse argument.2 = .ok t := by
  induction calls generalizing i with
  | nil => simp
  | cons first rest ih =>
    obtain ⟨⟨⟩, hfirst, h⟩ := exists_of_bind_eq_ok h
    intro call hmem
    rcases List.mem_cons.1 hmem with rfl | hmem
    · exact parses_of_checkArguments hfirst
    · exact ih h call hmem

/-- The arguments inside a decoded function are templates. -/
theorem parses_of_function {location : Location} {d : Document} {f : Function}
    (h : function location d = .ok f) :
    ∀ call ∈ f.calls, ∀ argument ∈ call.arguments,
      ∃ t, Template.parse argument.2 = .ok t := by
  obtain ⟨entries, -, h⟩ := exists_of_bind_eq_ok h
  obtain ⟨name, -, h⟩ := exists_of_bind_eq_ok h
  obtain ⟨declared, -, h⟩ := exists_of_bind_eq_ok h
  obtain ⟨params, -, h⟩ := exists_of_bind_eq_ok h
  obtain ⟨⟨code, revertCode, callee⟩, -, h⟩ := exists_of_bind_eq_ok h
  obtain ⟨called, -, h⟩ := exists_of_bind_eq_ok h
  obtain ⟨⟨⟩, hcheck, h⟩ := exists_of_bind_eq_ok h
  obtain ⟨codeTemplate, -, h⟩ := exists_of_bind_eq_ok h
  obtain ⟨revertTemplate, -, h⟩ := exists_of_bind_eq_ok h
  cases h
  exact parses_of_checkCalls hcheck

/-! ## Bodies -/

/-- Exactly one of code and calls is decoded. -/
theorem code_or_callee_of_body {location : Location} {owner : Owner} {entries : Entries}
    {code revertCode : Option String} {callee : Option Document}
    (h : body location owner entries = .ok (code, revertCode, callee)) :
    callee = none ∧ (∃ source, code = some source) ∨ code = none ∧ ∃ d, callee = some d := by
  obtain ⟨first, -, h⟩ := exists_of_bind_eq_ok h
  obtain ⟨second, -, h⟩ := exists_of_bind_eq_ok h
  cases hcallee : entries.present? "call" with
  | none =>
    cases first with
    | none => rw [hcallee] at h; cases h
    | some source =>
      rw [hcallee] at h
      cases h
      exact .inl ⟨rfl, source, rfl⟩
  | some d =>
    cases first with
    | some source => rw [hcallee] at h; cases h
    | none =>
      rw [hcallee] at h
      dsimp only at h
      split at h
      · cases h
      · cases h
        exact .inr ⟨rfl, d, rfl⟩

/-- As many things are decoded as a list has items. -/
theorem length_each {α : Type} {decode : Location → Document → Result α}
    {location : Location} {i : Nat} {items : List Document} {results : List α}
    (h : each decode location i items = .ok results) : results.length = items.length := by
  induction items generalizing i results with
  | nil => cases h; rfl
  | cons d items ih =>
    obtain ⟨first, -, h⟩ := exists_of_bind_eq_ok h
    obtain ⟨rest, hrest, h⟩ := exists_of_bind_eq_ok h
    cases h
    rw [List.length_cons, List.length_cons, ih hrest]

/-- Where calls are decoded there are some. -/
theorem calls_ne_nil {location : Location} {d : Document} {called : List Call}
    (h : calls location d = .ok called) : called ≠ [] := by
  rw [calls] at h
  split at h
  · cases hcall : call location d with
    | error e => rw [hcall] at h; cases h
    | ok first => rw [hcall] at h; cases h; exact List.cons_ne_nil _ _
  · obtain ⟨items, -, h⟩ := exists_of_bind_eq_ok h
    split at h
    · cases h
    · next hitems =>
      rw [← List.length_pos_iff, length_each h, List.length_pos_iff]
      rwa [List.isEmpty_iff] at hitems

/-- A decoded function has either calls or code of its own. -/
theorem calls_or_code_of_function {location : Location} {d : Document} {f : Function}
    (h : function location d = .ok f) : f.calls = [] ↔ ∃ t, f.code = some t := by
  obtain ⟨entries, -, h⟩ := exists_of_bind_eq_ok h
  obtain ⟨name, -, h⟩ := exists_of_bind_eq_ok h
  obtain ⟨declared, -, h⟩ := exists_of_bind_eq_ok h
  obtain ⟨params, -, h⟩ := exists_of_bind_eq_ok h
  obtain ⟨⟨code, revertCode, callee⟩, hbody, h⟩ := exists_of_bind_eq_ok h
  obtain ⟨called, hcalled, h⟩ := exists_of_bind_eq_ok h
  obtain ⟨⟨⟩, -, h⟩ := exists_of_bind_eq_ok h
  obtain ⟨codeTemplate, hcode, h⟩ := exists_of_bind_eq_ok h
  obtain ⟨revertTemplate, -, h⟩ := exists_of_bind_eq_ok h
  cases h
  rcases code_or_callee_of_body hbody with ⟨rfl, source, rfl⟩ | ⟨rfl, callee, rfl⟩
  · cases hcalled
    obtain ⟨t, -, rfl⟩ := exists_of_map_eq_ok hcode
    simp
  · cases hcode
    simp [calls_ne_nil hcalled]

/-! ## Names -/

/-- Indexed things keep their names. -/
theorem map_snd_indexed {α : Type} (name : α → String) (i : Nat) (things : List α) :
    (indexed name i things).map Prod.snd = things.map name := by
  induction things generalizing i with
  | nil => rfl
  | cons a rest ih => rw [indexed, List.map_cons, List.map_cons, ih]

/-- The places below some contents are those of the scripts that a walk visits. -/
theorem map_snd_scriptPlaces (location : Location) (i : Nat) (trail : List String)
    (contents : Contents) :
    (scriptPlaces location i contents).map Prod.snd =
      (contents.walk trail).map fun visit => visit.2.name := by
  induction contents generalizing location i trail with
  | empty => rfl
  | script s rest ih =>
    rw [scriptPlaces, Contents.walk, List.map_cons, List.map_cons, ih location (i + 1) trail]
  | category name docs children rest ihChildren ihRest =>
    rw [scriptPlaces, Contents.walk, List.map_append, List.map_append]
    rw [ihChildren _ 0 (trail ++ [name]), ihRest location (i + 1) trail]

/-- The places that are checked are those of all scripts. -/
theorem map_snd_allScriptPlaces (location : Location) (i : Nat) (actions : List Category) :
    (allScriptPlaces location i actions).map Prod.snd =
      (actions.flatMap Category.walk).map fun visit => visit.2.name := by
  induction actions generalizing i with
  | nil => rfl
  | cons k rest ih =>
    rw [allScriptPlaces, List.flatMap_cons, List.map_append, List.map_append, ih]
    rw [map_snd_scriptPlaces _ 0 [k.name], Category.walk]

/-- Names pass the check exactly where those of functions and those of scripts are
distinct. -/
theorem checkNames_eq_ok_iff {c : Collection} :
    checkNames c = .ok () ↔ (c.functions.map Function.name).Nodup ∧
      ((allScriptPlaces [.key "actions"] 0 c.actions).map Prod.snd).Nodup := by
  rw [← map_snd_indexed Function.name 0, checkNames]
  constructor
  · intro h
    split at h
    · cases h
    · next hfunctions =>
      split at h
      · cases h
      · next hscripts => exact ⟨(firstRepeat?_eq_none.1 hfunctions).1,
          (firstRepeat?_eq_none.1 hscripts).1⟩
  · rintro ⟨hfunctions, hscripts⟩
    rw [firstRepeat?_eq_none.2 ⟨hfunctions, by simp⟩, firstRepeat?_eq_none.2 ⟨hscripts, by simp⟩]

/-- Names that pass the check are distinct. -/
theorem nodup_of_checkNames {c : Collection} (h : checkNames c = .ok ()) :
    (c.functions.map Function.name).Nodup ∧ (c.scripts.map Script.name).Nodup := by
  obtain ⟨hfunctions, hscripts⟩ := checkNames_eq_ok_iff.1 h
  rw [map_snd_allScriptPlaces] at hscripts
  rw [Collection.scripts, Collection.walk, List.map_map]
  exact ⟨hfunctions, hscripts⟩

/-- Where a collection is decoded its names pass the check, and each of its functions was
decoded from a definition. -/
theorem exists_definitions_of_ofDocument {d : Document} {c : Collection}
    (h : Collection.ofDocument d = .ok c) :
    checkNames c = .ok () ∧
      ∀ f ∈ c.functions, ∃ place definition, function place definition = .ok f := by
  obtain ⟨entries, -, h⟩ := exists_of_bind_eq_ok h
  obtain ⟨name, -, h⟩ := exists_of_bind_eq_ok h
  obtain ⟨os, -, h⟩ := exists_of_bind_eq_ok h
  obtain ⟨language, -, h⟩ := exists_of_bind_eq_ok h
  obtain ⟨raw, -, h⟩ := exists_of_bind_eq_ok h
  obtain ⟨items, -, h⟩ := exists_of_bind_eq_ok h
  split at h
  · cases h
  · obtain ⟨actions, -, h⟩ := exists_of_bind_eq_ok h
    obtain ⟨-, -, h⟩ := exists_of_bind_eq_ok h
    obtain ⟨definitions, -, h⟩ := exists_of_bind_eq_ok h
    obtain ⟨functions, hfunctions, h⟩ := exists_of_bind_eq_ok h
    obtain ⟨⟨⟩, hnames, h⟩ := exists_of_bind_eq_ok h
    cases h
    refine ⟨hnames, fun f hf => ?_⟩
    obtain ⟨place, definition, -, hdecode⟩ := exists_of_mem_each hfunctions hf
    exact ⟨place, definition, hdecode⟩

/-- What holds of every decoded collection. -/
theorem loaded_of_ofDocument {d : Document} {c : Collection}
    (h : Collection.ofDocument d = .ok c) : c.Loaded := by
  obtain ⟨hnames, hfunctions⟩ := exists_definitions_of_ofDocument h
  obtain ⟨hfunctionNames, hscriptNames⟩ := nodup_of_checkNames hnames
  constructor
  · exact hfunctionNames
  · exact hscriptNames
  · intro f hf
    obtain ⟨place, definition, hdecode⟩ := hfunctions f hf
    exact parses_of_function hdecode
  · intro f hf
    obtain ⟨place, definition, hdecode⟩ := hfunctions f hf
    exact calls_or_code_of_function hdecode

end Decode

/-! ## Samples -/

/-- A document with a script that calls a function behind another one, and with a
category within the first. -/
def sampleDocument : Document :=
  .mapping
    [(.text "os", .text "linux"),
      (.text "actions", .list
        [.mapping [(.text "category", .text "Privacy"), (.text "children", .list
          [.mapping [(.text "name", .text "Clear history"), (.text "call",
              .mapping [(.text "function", .text "Outer")])],
            .mapping [(.text "category", .text "Services"), (.text "children", .list
              [.mapping [(.text "name", .text "Stop service"), (.text "code", .text "stop"),
                (.text "revertCode", .text "start"), (.text "recommend", .text "strict")]])]])]]),
      (.text "functions", .list
        [.mapping [(.text "name", .text "Inner"), (.text "code", .text "clear")],
          .mapping [(.text "name", .text "Outer"), (.text "call",
            .mapping [(.text "function", .text "Inner")])]])]

/-- The collection of `sampleDocument`. -/
def sample : Collection where
  os := .linux
  scripting := none
  actions := [⟨"Privacy", [],
    .script ⟨"Clear history", none, none, [⟨"Outer", []⟩], none, []⟩
      (.category "Services" []
        (.script ⟨"Stop service", some "stop", some "start", [], some .strict, []⟩ .empty)
        .empty)⟩]
  functions := [⟨"Inner", [], some (.text "clear" .done), none, []⟩,
    ⟨"Outer", [], none, none, [⟨"Inner", []⟩]⟩]

/-- The sample is a decoded collection. -/
theorem ofDocument_sample : Collection.ofDocument sampleDocument = .ok sample := by
  decide +kernel

/-- A document with a function that passes its own parameter on, in two calls of another
one. -/
def greetingDocument : Document :=
  .mapping
    [(.text "os", .text "linux"),
      (.text "actions", .list
        [.mapping [(.text "category", .text "Greetings"), (.text "children", .list
          [.mapping [(.text "name", .text "Greet"), (.text "call",
            .mapping [(.text "function", .text "Twice"), (.text "parameters",
              .mapping [(.text "word", .text "hello")])])]])]]),
      (.text "functions", .list
        [.mapping [(.text "name", .text "Write"),
            (.text "parameters", .list
              [.mapping [(.text "name", .text "line")],
                .mapping [(.text "name", .text "note"), (.text "optional", .bool true)]]),
            (.text "code", .text "echo {{ $line }}{{ with $note }} # {{ . }}{{ end }}"),
            (.text "revertCode", .text "{{ with $note }}drop {{ $line }}{{ end }}")],
          .mapping [(.text "name", .text "Twice"),
            (.text "parameters", .list
              [.mapping [(.text "name", .text "word"), (.text "optional", .bool true)]]),
            (.text "call", .list
              [.mapping [(.text "function", .text "Write"), (.text "parameters",
                  .mapping [(.text "line", .text "{{ $word }}")])],
                .mapping [(.text "function", .text "Write"), (.text "parameters",
                  .mapping [(.text "line", .text "<{{ $word }}>"),
                    (.text "note", .text "{{ $word }}")])]])]])]

/-- The collection of `greetingDocument`. -/
def greeting : Collection where
  os := .linux
  scripting := none
  actions := [⟨"Greetings", [],
    .script ⟨"Greet", none, none, [⟨"Twice", [("word", "hello")]⟩], none, []⟩ .empty⟩]
  functions := [
    ⟨"Write", [⟨"line", false, none⟩, ⟨"note", true, none⟩],
      some (.text "echo " (.hole (some "line") []
        (.block "note" (.text " # " (.hole none [] .done)) .done))),
      some (.block "note" (.text "drop " (.hole (some "line") [] .done)) .done), []⟩,
    ⟨"Twice", [⟨"word", true, none⟩], none, none,
      [⟨"Write", [("line", "{{ $word }}")]⟩,
        ⟨"Write", [("line", "<{{ $word }}>"), ("note", "{{ $word }}")]⟩]⟩]

/-- The greetings are a decoded collection. -/
theorem ofDocument_greeting : Collection.ofDocument greetingDocument = .ok greeting := by
  decide +kernel

end Tweaks
