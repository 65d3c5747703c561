import Tweaks.Proofs.Acceptance
import Tweaks.Proofs.Covering
import Tweaks.Proofs.Showing

/-!
# What a parameter is called

The name of a declared parameter is made of the characters that a tag takes for a name, but one
line feed may stand behind them.  A tag is read without the blanks around it, and a line feed is
a blank: so where a parameter's name is put into a tag, what is read is the name without the line
feed.  No template refers to a parameter whose name ends with a line feed.

Main results:

- `isParameterName_of_mem`: what the parameters of a collection are called.
- `parse_referenceTo`, `parse_blockOn`: the tags with a name that blanks follow.
- `isName_of_mem_names`: what templates refer to.
- `declared_names_are_read_up_to_line_feed`: all of it together.
-/

namespace Tweaks

namespace Decode

open Stepwise Schema

/-! ## Declared names -/

/-- A decoded parameter has a name that a parameter may have. -/
theorem isParameterName_of_parameter {place : Location} {d : Document} {p : Parameter}
    (h : parameter place d = .ok p) : IsParameterName p.name := by
  obtain ⟨entries, -, h⟩ := exists_of_bind_eq_ok h
  obtain ⟨name, -, h⟩ := exists_of_bind_eq_ok h
  split at h
  · cases h
  · next hvalid =>
    obtain ⟨optional, -, h⟩ := exists_of_bind_eq_ok h
    obtain ⟨value, -, h⟩ := exists_of_bind_eq_ok h
    cases h
    rwa [Bool.not_eq_true', Bool.not_eq_false, isParameterName_iff] at hvalid

/-- Decoded parameters have names that parameters may have. -/
theorem isParameterName_of_parameters {function : String} {place : Location} {i : Nat}
    {seen : List String} {items : List Document} {params : List Parameter}
    (h : parameters function place i seen items = .ok params) :
    ∀ p ∈ params, IsParameterName p.name := by
  induction items generalizing i seen params with
  | nil => cases h; simp
  | cons item rest ih =>
    obtain ⟨first, hfirst, h⟩ := exists_of_bind_eq_ok h
    split at h
    · cases h
    · obtain ⟨others, hothers, h⟩ := exists_of_bind_eq_ok h
      cases h
      exact List.forall_mem_cons.2 ⟨isParameterName_of_parameter hfirst, ih hothers⟩

/-- The parameters of a collection have names that parameters may have. -/
theorem isParameterName_of_mem {d : Document} {c : Collection}
    (h : Collection.ofDocument d = .ok c) {f : Function} (hf : f ∈ c.functions) {p : Parameter}
    (hp : p ∈ f.parameters) : IsParameterName p.name := by
  obtain ⟨place, definition, h⟩ := (exists_definitions_of_ofDocument h).2 f hf
  obtain ⟨entries, -, h⟩ := exists_of_bind_eq_ok h
  obtain ⟨name, -, h⟩ := exists_of_bind_eq_ok h
  obtain ⟨declared, -, h⟩ := exists_of_bind_eq_ok h
  obtain ⟨params, hparams, h⟩ := exists_of_bind_eq_ok h
  obtain ⟨⟨code, revertCode, callee⟩, -, h⟩ := exists_of_bind_eq_ok h
  obtain ⟨called, -, h⟩ := exists_of_bind_eq_ok h
  obtain ⟨⟨⟩, -, h⟩ := exists_of_bind_eq_ok h
  obtain ⟨codeTemplate, -, h⟩ := exists_of_bind_eq_ok h
  obtain ⟨revertTemplate, -, h⟩ := exists_of_bind_eq_ok h
  cases h
  exact isParameterName_of_parameters hparams p hp

end Decode

namespace Template

open Text

/-! ## Tags with a name -/

/-- A tag with a parameter's name. -/
def referenceTo (name : String) : String :=
  "\x7b\x7b $" ++ name ++ " \x7d\x7d"

/-- A block on a parameter with a letter in it. -/
def blockOn (name : String) : String :=
  "\x7b\x7b with $" ++ name ++ " \x7d\x7dx\x7b\x7b end \x7d\x7d"

/-- Blanks around a text are removed from it. -/
theorem stripChars_append {before inside after : List Char} (hbefore : Blanks before)
    (hafter : Blanks after) (hfirst : ∀ c ∈ inside.head?, isBlank c = false)
    (hlast : ∀ c ∈ inside.getLast?, isBlank c = false) :
    stripChars (before ++ inside ++ after) = inside := by
  have hbehind : Blanks after.reverse := fun c hc => hafter c (List.mem_reverse.1 hc)
  rw [stripChars, List.append_assoc, dropBlank_append hbefore]
  cases inside with
  | nil => exact strip_of_all_blank hafter
  | cons first inside =>
    rw [List.cons_append, dropBlank_cons_of_not_blank (hfirst first rfl), ← List.cons_append,
      List.reverse_append, dropBlank_append hbehind]
    rw [← List.head?_reverse] at hlast
    cases hreverse : (first :: inside).reverse with
    | nil => simp at hreverse
    | cons last others =>
      rw [hreverse] at hlast
      rw [dropBlank_cons_of_not_blank (hlast last rfl), ← hreverse, List.reverse_reverse]

/-- A tag that does not take its line is the first token, if it holds no closing brace. -/
theorem scan_braced {atLineStart : Bool} {inner after : List Char} (h : '}' ∉ inner)
    (htag : isTag (stripChars inner) = true)
    (hline : ownLine? atLineStart ⟨[], inner, after⟩ = none) :
    scan atLineStart (braced inner ++ after) = .tag [] inner [] :: scan false after := by
  have hnearest : ¬HasPair '}' (inner ++ ['}']) := by
    rw [hasPair_append_iff_of_notMem h]
    simp [hasPair_cons_iff, not_hasPair_nil]
  have hfirst : ¬HasPair '{' ([] ++ ['{']) := by
    simp [hasPair_cons_iff, not_hasPair_nil]
  exact scan_of_tag (nextGroup?_eq_some_iff.2 ⟨rfl, hfirst, hnearest⟩) htag hline

section Read

variable {word gap : List Char}

/-- What a tag holds that is about a name, with blanks behind the name. -/
theorem stripChars_named (start : List Char) (hstart : start ≠ [])
    (hfirst : ∀ c ∈ start.head?, isBlank c = false) (hword : IsName word) (hgap : Blanks gap) :
    stripChars (' ' :: (start ++ word ++ (gap ++ [' ']))) = start ++ word := by
  have hspace : Blanks [' '] := by simp [Blanks, isBlank]
  have hbehind : Blanks (gap ++ [' ']) := List.forall_mem_append.2 ⟨hgap, hspace⟩
  change stripChars ([' '] ++ (start ++ word) ++ (gap ++ [' '])) = start ++ word
  refine stripChars_append hspace hbehind ?_ ?_
  · rwa [List.head?_append_of_ne_nil start hstart]
  · intro c hc
    rw [List.getLast?_append_of_ne_nil start hword.ne_nil] at hc
    exact hword.not_isBlank c (List.mem_of_getLast? hc)

/-- A tag that is about a name holds no closing brace. -/
theorem notMem_named {start : List Char} (hstart : '}' ∉ start) (hword : IsName word)
    (hgap : Blanks gap) : '}' ∉ ' ' :: (start ++ word ++ (gap ++ [' '])) := by
  have hname : '}' ∉ word := fun hbrace => absurd (hword.all _ hbrace) (by decide)
  have hblank : '}' ∉ gap := fun hbrace => absurd (hgap _ hbrace) (by decide)
  simp [hstart, hname, hblank]

end Read

section Names

variable {word gap : String}

/-- A tag with a name, which blanks may follow, is a hole for the name. -/
theorem parse_referenceTo (hword : IsName word.toList) (hgap : Blanks gap.toList) :
    parse (referenceTo (word ++ gap)) = .ok (hole (some word) [] done) := by
  have hinner := stripChars_named ['$'] (by simp) (by simp [isBlank]) hword hgap
  have hread := (Spells.parameter hword .nil).ofExpression?
  rw [List.append_nil, String.ofList_toList, ← List.singleton_append, ← hinner] at hread
  have hblock : isBlockTag (['$'] ++ word.toList) = false := by
    simp [isBlockTag, firstWord, dropBlank, isBlank]
  have hsource : (referenceTo (word ++ gap)).toList =
      braced (' ' :: (['$'] ++ word.toList ++ (gap.toList ++ [' ']))) ++ [] := by
    simp [referenceTo, braced]
  rw [parse, hsource, scan_braced (notMem_named (by simp) hword hgap), scan_of_none rfl]
  · simp only [build, hread]
    rfl
  · rw [hinner]
    rfl
  · rw [ownLine?, hinner, hblock]
    rfl

/-- A block's tag with a name, which blanks may follow, opens a block on the name. -/
theorem parse_blockOn (hword : IsName word.toList) (hgap : Blanks gap.toList) :
    parse (blockOn (word ++ gap)) = .ok (block word (text "x" done) done) := by
  have hinner := stripChars_named "with $".toList (by simp) (by simp [isBlank]) hword hgap
  have hspelled : Spells ("with $".toList ++ word.toList)
      (.opening (String.ofList word.toList)) := by
    change Spells ("with".toList ++ ([' '] ++ '$' :: word.toList)) _
    exact .opening (by simp) (by simp [Blanks, isBlank]) hword
  have hread := hspelled.ofExpression?
  rw [String.ofList_toList, ← hinner] at hread
  have hsource : (blockOn (word ++ gap)).toList =
      braced (' ' :: ("with $".toList ++ word.toList ++ (gap.toList ++ [' ']))) ++
        "x{{ end }}".toList := by
    simp [blockOn, braced]
  have hrest : scan false "x{{ end }}".toList = [.text ['x'], .tag [] " end ".toList []] := by
    decide +kernel
  rw [parse, hsource, scan_braced (notMem_named (by simp) hword hgap), hrest]
  · rw [build_opening hread, build_text, build_closing (by decide)]
    rfl
  · rw [hinner]
    rfl
  · -- Behind the tag there is a letter on its line.
    rw [ownLine?]
    split <;> rfl

end Names

/-! ## Names that are read -/

/-- What is spelled as a parameter has a name. -/
theorem Spells.isName_of_parameter {expression : List Char} {name : String} {pipes : List String}
    (h : Spells expression (.parameter name pipes)) : IsName name.toList := by
  cases h with
  | parameter named piped => rwa [String.toList_ofList]

/-- What is spelled as the start of a block has a name. -/
theorem Spells.isName_of_opening {expression : List Char} {name : String}
    (h : Spells expression (.opening name)) : IsName name.toList := by
  cases h with
  | opening gap_ne_nil gap_blank named => rwa [String.toList_ofList]

/-- What a template refers to is in its tags. -/
theorem exists_tag_of_mem_names {t : Template} {name : String} (h : name ∈ t.names) :
    (∃ pipes, .tag (.parameter name pipes) ∈ t.pieces) ∨ .tag (.opening name) ∈ t.pieces := by
  induction t with
  | done => cases h
  | text value rest ih => simpa [pieces] using ih h
  | hole parameter pipes rest ih =>
    rcases List.mem_append.1 h with h | h
    · obtain rfl := Option.mem_toList.1 h
      exact .inl ⟨pipes, List.mem_cons_self⟩
    · rcases ih h with ⟨more, hmore⟩ | hopening
      · exact .inl ⟨more, List.mem_cons_of_mem _ hmore⟩
      · exact .inr (List.mem_cons_of_mem _ hopening)
  | block parameter body rest ihBody ihRest =>
    rw [names, List.cons_append, List.mem_cons, List.mem_append] at h
    simp only [pieces, List.mem_cons, List.mem_append]
    rcases h with rfl | h | h
    · exact .inr (.inl rfl)
    · rcases ihBody h with ⟨more, hmore⟩ | hopening
      · exact .inl ⟨more, .inr (.inl hmore)⟩
      · exact .inr (.inr (.inl hopening))
    · rcases ihRest h with ⟨more, hmore⟩ | hopening
      · exact .inl ⟨more, .inr (.inr (.inr hmore))⟩
      · exact .inr (.inr (.inr (.inr hopening)))

/-- The tags among pieces are spelled in the tokens that are read as them. -/
theorem exists_spells_of_mem {tokens : List Token} {pieces : List Piece}
    (h : List.Forall₂ Token.Reads tokens pieces) {tag : Tag} (htag : .tag tag ∈ pieces) :
    ∃ expression, Spells expression tag := by
  induction h with
  | nil => cases htag
  | cons first others ih =>
    rcases List.mem_cons.1 htag with rfl | htag
    · cases first with
      | tag spelled => exact ⟨_, spelled⟩
    · exact ih htag

/-- A template refers to names only. -/
theorem isName_of_mem_names {source : String} {t : Template} (h : parse source = .ok t)
    {name : String} (hname : name ∈ t.names) : IsName name.toList := by
  obtain ⟨-, hreads⟩ := parse_eq_ok_iff.1 h
  rcases exists_tag_of_mem_names hname with ⟨pipes, htag⟩ | htag
  · obtain ⟨expression, hspelled⟩ := exists_spells_of_mem hreads htag
    exact hspelled.isName_of_parameter
  · obtain ⟨expression, hspelled⟩ := exists_spells_of_mem hreads htag
    exact hspelled.isName_of_opening

/-- What ends with a line feed is no name. -/
theorem not_isName_of_getLast? {s : List Char} (h : s.getLast? = some '\n') : ¬IsName s := by
  intro hname
  exact absurd (hname.all _ (List.mem_of_getLast? h)) (by decide)

/-- Every parameter of a collection is called by a name, behind which there may be one line feed.
A tag with what it is called refers to the name, and so does the start of a block.  If what it is
called does not end with a line feed it is the name; and if it does it is no name, and no
template refers to it. -/
theorem declared_names_are_read_up_to_line_feed {d : Document} {c : Collection}
    (hc : Collection.ofDocument d = .ok c) {f : Function} (hf : f ∈ c.functions) {p : Parameter}
    (hp : p ∈ f.parameters) :
    ∃ word : String, IsName word.toList ∧ (p.name = word ∨ p.name = word ++ "\n") ∧
      parse (referenceTo p.name) = .ok (hole (some word) [] done) ∧
      parse (blockOn p.name) = .ok (block word (text "x" done) done) ∧
      (p.name.toList.getLast? ≠ some '\n' → p.name = word) ∧
      (p.name.toList.getLast? = some '\n' → ¬IsName p.name.toList ∧
        ∀ source t, parse source = .ok t → p.name ∉ t.parameters) := by
  obtain ⟨word, hword, hchars⟩ := Decode.isParameterName_of_mem hc hf hp
  rw [← String.toList_ofList (l := word)] at hword hchars
  generalize String.ofList word = word at hword hchars
  have hname : p.name = word ∨ p.name = word ++ "\n" := by
    refine hchars.imp String.toList_inj.1 fun hline => String.toList_inj.1 ?_
    rw [hline, String.toList_append]
    rfl
  have hgap : ∃ gap : String, Blanks gap.toList ∧ p.name = word ++ gap := by
    rcases hname with hwhole | hline
    · exact ⟨"", by simp [Blanks], by rw [hwhole, String.append_empty]⟩
    · exact ⟨"\n", by simp [Blanks, isBlank], hline⟩
  obtain ⟨gap, hgap, hpieces⟩ := hgap
  refine ⟨word, hword, hname, ?_, ?_, fun hlast => ?_, fun hlast => ?_⟩
  · rw [hpieces]
    exact parse_referenceTo hword hgap
  · rw [hpieces]
    exact parse_blockOn hword hgap
  · refine hname.resolve_right fun hline => hlast ?_
    rw [hline, String.toList_append, List.getLast?_append]
    rfl
  · have hno := not_isName_of_getLast? hlast
    refine ⟨hno, fun source t ht hmem => hno ?_⟩
    exact isName_of_mem_names ht (mem_parameters_iff.1 hmem)

/-- The line of a greeting is referred to by its name. -/
theorem line_is_read :
    Collection.ofDocument greetingDocument = .ok greeting ∧
    ⟨"line", false, none⟩ ∈ greeting.functions.flatMap Function.parameters ∧
    ∃ word : String, IsName word.toList ∧ ("line" = word ∨ "line" = word ++ "\n") ∧
      parse (referenceTo "line") = .ok (hole (some word) [] done) ∧
      parse (blockOn "line") = .ok (block word (text "x" done) done) ∧
      ("line".toList.getLast? ≠ some '\n' → "line" = word) ∧
      ("line".toList.getLast? = some '\n' → ¬IsName "line".toList ∧
        ∀ source t, parse source = .ok t → "line" ∉ t.parameters) :=
  ⟨ofDocument_greeting, by decide, declared_names_are_read_up_to_line_feed
    (f := greeting.functions.head (by decide)) (p := ⟨"line", false, none⟩) ofDocument_greeting
    (by decide) (by decide)⟩

/-- A document with a function that has one parameter. -/
def parameterDocument (name : String) : Document :=
  .mapping
    [(.text "os", .text "linux"),
      (.text "actions", .list
        [.mapping [(.text "category", .text "Main"), (.text "children", .list
          [.mapping [(.text "name", .text "a"), (.text "code", .text "echo a")]])]]),
      (.text "functions", .list
        [.mapping [(.text "name", .text "F"),
          (.text "parameters", .list [.mapping [(.text "name", .text name)]]),
          (.text "code", .text "x")]])]

/-- The collection of `parameterDocument`. -/
def parameterCollection (name : String) : Collection where
  os := .linux
  scripting := none
  actions := [⟨"Main", [], .script ⟨"a", some "echo a", none, [], none, []⟩ .empty⟩]
  functions := [⟨"F", [⟨name, false, none⟩], some (.text "x" .done), none, []⟩]

/-- A parameter may be called by a letter and a line feed.  What looks like a reference to it is
one to the letter. -/
theorem line_feed_is_not_read :
    Collection.ofDocument (parameterDocument "p\n") = .ok (parameterCollection "p\n") ∧
    ¬IsName "p\n".toList ∧
    parse (referenceTo "p\n") = .ok (hole (some "p") [] done) ∧
    parse (blockOn "p\n") = .ok (block "p" (text "x" done) done) ∧ "p\n" ≠ "p" := by
  refine ⟨by decide +kernel, not_isName_of_getLast? (by decide), ?_, ?_, by decide⟩
  · decide +kernel
  · decide +kernel

end Template

end Tweaks
