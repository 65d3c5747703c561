import Tweaks.Proofs.Loading
import Tweaks.Proofs.Nesting
import Tweaks.Template.Render

/-!
# The dot of a block

Inside a block the dot stands for the value of the block's parameter.  Filling in a template
hands that value down; but which parameter a dot means can be read off the template, by the
innermost block around the dot.  So every dot may be written as that parameter.

A template that was read has a block around each of its dots, so that no dot is left when all
of them are named.

Main results:

- `renderIn_nameDots`: naming the dots changes nothing about what a template renders to.
- `noDot_nameDots_iff`: all dots can be named where each has a block around it.
- `dotsInside_of_build`: in a template that was read each has.
- `dots_are_lexical`: a template that was read, with its dots named.
-/

namespace Tweaks.Template

/-! ## Naming dots -/

/-- A template inside a block on `dot`, or inside none, with each dot written as the parameter of
the innermost block around it. -/
def nameDots : (dot : Option String) → Template → Template
  | _, done => done
  | dot, text value rest => text value (rest.nameDots dot)
  | dot, hole name pipes rest => hole (name.or dot) pipes (rest.nameDots dot)
  | dot, block name body rest => block name (body.nameDots (some name)) (rest.nameDots dot)

/-- No dot stands in a template. -/
def NoDot : Template → Prop
  | done => True
  | text _ rest => rest.NoDot
  | hole name _ rest => name ≠ none ∧ rest.NoDot
  | block _ body rest => body.NoDot ∧ rest.NoDot

/-- Each dot of a template has a block around it. -/
def DotsInside : Template → Prop
  | done => True
  | text _ rest => rest.DotsInside
  | hole name _ rest => name ≠ none ∧ rest.DotsInside
  | block _ _ rest => rest.DotsInside

/-- The dots of a sequence are those of its parts. -/
@[simp]
theorem nameDots_append (dot : Option String) (s t : Template) :
    (s ++ t).nameDots dot = s.nameDots dot ++ t.nameDots dot := by
  induction s with
  | done => rfl
  | text _ _ ih => simp [nameDots, ih]
  | hole _ _ _ ih => simp [nameDots, ih]
  | block _ _ _ _ ih => simp [nameDots, ih]

/-- The dots of a sequence have blocks around them where those of its parts do. -/
@[simp]
theorem dotsInside_append (s t : Template) :
    (s ++ t).DotsInside ↔ s.DotsInside ∧ t.DotsInside := by
  induction s with
  | done => simp [DotsInside]
  | text _ _ ih => simp [DotsInside, ih]
  | hole _ _ _ ih => simp [DotsInside, ih, and_assoc]
  | block _ _ _ _ ih => simp [DotsInside, ih]

/-- Inside a block every dot is named. -/
theorem noDot_nameDots_some (name : String) (t : Template) : (t.nameDots (some name)).NoDot := by
  induction t generalizing name with
  | done => trivial
  | text value rest ih => exact ih name
  | hole parameter pipes rest ih =>
    refine ⟨?_, ih name⟩
    cases parameter <;> simp
  | block parameter body rest ihBody ihRest => exact ⟨ihBody parameter, ihRest name⟩

/-- Outside of all blocks every dot is named where each has a block around it. -/
theorem noDot_nameDots_iff (t : Template) : (t.nameDots none).NoDot ↔ t.DotsInside := by
  induction t with
  | done => rfl
  | text value rest ih => exact ih
  | hole parameter pipes rest ih =>
    rw [nameDots, NoDot, DotsInside, Option.or_none, ih]
  | block parameter body rest _ ih =>
    rw [nameDots, NoDot, DotsInside, ih]
    exact and_iff_right (noDot_nameDots_some parameter body)

/-! ## Rendering -/

/-- A template renders as it does with its dots named, if the dot of the block that it stands in
has the value of that block's parameter. -/
theorem renderIn_nameDots (registry : Registry) (values : Values) {dot : Option String}
    {value : String} (hdot : ∀ name ∈ dot, values.get name = .ok value) (t : Template) :
    renderIn registry values value (t.nameDots dot) = renderIn registry values value t := by
  induction t generalizing dot value with
  | done => rfl
  | text _ rest ih =>
    rw [nameDots, renderIn, renderIn, ih hdot]
  | hole parameter pipes rest ih =>
    have hsubject : values.subject value (parameter.or dot) = values.subject value parameter := by
      cases parameter with
      | some name => rfl
      | none =>
        cases dot with
        | none => rfl
        | some name => exact hdot name rfl
    rw [nameDots, renderIn, renderIn, hsubject, ih hdot]
  | block name body rest ihBody ihRest =>
    rw [nameDots, renderIn, renderIn, ihRest hdot]
    cases hget : values.get name with
    | error e => rfl
    | ok inner =>
      -- The body stands inside the block, whose dot now has the block's value.
      have hbody : renderIn registry values inner (body.nameDots (some name)) =
          renderIn registry values inner body := by
        refine ihBody ?_
        rintro _ ⟨⟩
        exact hget
      rw [Stepwise.bind_of_eq_ok rfl, Stepwise.bind_of_eq_ok rfl, hbody]

/-- What is handed down for the dot of a template does not matter where each dot has a block
around it. -/
theorem renderIn_of_dotsInside (registry : Registry) (values : Values) {t : Template}
    (h : t.DotsInside) (dot dot' : String) :
    renderIn registry values dot t = renderIn registry values dot' t := by
  induction t with
  | done => rfl
  | text value rest ih => rw [renderIn, renderIn, ih h]
  | hole parameter pipes rest ih =>
    obtain ⟨hparameter, hrest⟩ := h
    obtain ⟨name, rfl⟩ := Option.ne_none_iff_exists'.1 hparameter
    rw [renderIn, renderIn, ih hrest]
    rfl
  | block name body rest _ ih => rw [renderIn, renderIn, ih h]

/-! ## Reading -/

/-- What is read of a template outside of all blocks: what precedes the first block that is
still open, or all that was read where none is. -/
def readOutside : List OpenBlock → Template → Template
  | [], read => read
  | innermost :: blocks, _ => readOutside blocks innermost.before

/-- What is read further stands outside of all blocks if none is open. -/
theorem dotsInside_readOutside_append {blocks : List OpenBlock} {read more : Template}
    (h : (readOutside blocks read).DotsInside) (hmore : blocks = [] → more.DotsInside) :
    (readOutside blocks (read ++ more)).DotsInside := by
  cases blocks with
  | nil => exact (dotsInside_append read more).2 ⟨h, hmore rfl⟩
  | cons innermost blocks => exact h

/-- In a template that was read every dot has a block around it, if that was so outside of the
blocks that were open. -/
theorem dotsInside_of_build {tokens : List Token} {blocks : List OpenBlock} {read t : Template}
    (hread : (readOutside blocks read).DotsInside) (h : build tokens blocks read = .ok t) :
    t.DotsInside := by
  fun_induction build tokens blocks read with
  | case1 read => cases h; exact hread
  | case2 innermost blocks read => cases h
  | case3 value tokens blocks read ih =>
    exact ih (dotsInside_readOutside_append hread fun _ => trivial) h
  | case4 => cases h
  | case5 lead inner trail tokens blocks read name pipes htag ih =>
    exact ih (dotsInside_readOutside_append hread fun _ => ⟨by simp, trivial⟩) h
  | case6 => cases h
  | case7 lead inner trail tokens blocks read pipes htag hblocks ih =>
    -- The dot is not outside of all blocks, for one is open.
    refine ih (dotsInside_readOutside_append hread fun hnone => ?_) h
    exact absurd (List.isEmpty_iff.2 hnone) hblocks
  | case8 lead inner trail tokens blocks read name htag ih => exact ih hread h
  | case9 => cases h
  | case10 lead inner trail tokens read htag innermost blocks ih =>
    exact ih (dotsInside_readOutside_append hread fun _ => trivial) h

/-- Every dot of a template that was read has a block around it. -/
theorem dotsInside_of_parse {source : String} {t : Template} (h : parse source = .ok t) :
    t.DotsInside := by
  have hread : (readOutside [] done).DotsInside := trivial
  exact dotsInside_of_build hread h

/-- A template that was read, with each dot written as the parameter of the innermost block
around it, has no dot left, and renders to the same text or fails in the same way.  No dot is
without a value: what is handed down from outside of the template does not matter.  And behind
an inner block a dot is the parameter of the outer one again. -/
theorem dots_are_lexical {source : String} {t : Template} (h : parse source = .ok t) :
    (t.nameDots none).NoDot ∧
    (∀ registry values, render registry values (t.nameDots none) = render registry values t) ∧
    (∀ registry values dot, renderIn registry values dot t = render registry values t) ∧
    ∀ registry values dot outer inner before body pipes after rest,
      renderIn registry values dot
          (block outer (before ++ block inner body (hole none pipes after)) rest) =
        renderIn registry values dot
          (block outer (before ++ block inner body (hole (some outer) pipes after)) rest) := by
  have hinside := dotsInside_of_parse h
  refine ⟨(noDot_nameDots_iff t).2 hinside, ?_, ?_, ?_⟩
  · intro registry values
    exact renderIn_nameDots registry values (by simp) t
  · intro registry values dot
    exact renderIn_of_dotsInside registry values hinside dot ""
  · intro registry values dot outer inner before body pipes after rest
    have hnamed (s : Template) :
        renderIn registry values dot (s.nameDots none) = renderIn registry values dot s :=
      renderIn_nameDots registry values (by simp) s
    rw [← hnamed, ← hnamed (block outer (before ++ block inner body (hole (some outer) _ _)) _)]
    simp only [nameDots, nameDots_append, Option.none_or, Option.some_or]

/-- Behind the inner of two blocks a dot is the parameter of the outer one. -/
theorem dot_behind_inner_block :
    parse "{{ with $a }}{{ with $b }}{{ . }}{{ end }}{{ . }}{{ end }}" =
        .ok (block "a" (block "b" (hole none [] done) (hole none [] done)) done) ∧
      ∀ registry values, render registry values
          (block "a" (block "b" (hole (some "b") [] done) (hole (some "a") [] done)) done) =
        render registry values
          (block "a" (block "b" (hole none [] done) (hole none [] done)) done) := by
  have hparse : parse "{{ with $a }}{{ with $b }}{{ . }}{{ end }}{{ . }}{{ end }}" =
      .ok (block "a" (block "b" (hole none [] done) (hole none [] done)) done) := by
    decide +kernel
  exact ⟨hparse, (dots_are_lexical hparse).2.1⟩

end Tweaks.Template
