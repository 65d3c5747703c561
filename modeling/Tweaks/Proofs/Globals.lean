import Mathlib.Data.List.Infix
import Mathlib.Data.List.Nodup
import Tweaks.ScriptText

/-!
# Global variables at once

Header and footer refer to global variables.  These are filled in one after the other, each over
the whole text that the one before it left.  So what is filled in is looked at again: a value may
bring a reference to a later variable, or be the middle of one whose ends stand around it.

No reference overlaps another one, for braces stand only at its ends.  So a text can also be
filled in at once, in a single pass over it, and the order of the variables does not matter then.
The two ways agree as long as no reference arises that was not in the text.

Main results:

- `fillChars_append`: a reference cuts a text into parts that are filled in by themselves.
- `replace_reference`: replacing a reference fills in a single variable.
- `fillChars_single_eq_iff`: what filling in one more variable comes to.
- `fillChars_perm`: the order of variables that are filled in at once does not matter.
- `fills_in_at_once_iff`: when filling in variables one after the other is filling them in at
  once; `reference_in_value_is_filled_in` is a value that is looked at again.
-/

namespace Tweaks.Assembly

open Text

/-! ## References -/

/-- A name without braces, as one of letters and digits is. -/
def IsPlain (name : String) : Prop :=
  '{' ∉ name.toList ∧ '}' ∉ name.toList

instance : DecidablePred IsPlain := fun name =>
  inferInstanceAs (Decidable ('{' ∉ name.toList ∧ '}' ∉ name.toList))

/-- What a reference holds behind the braces that open it. -/
def named (name : String) : List Char :=
  ' ' :: '$' :: (name.toList ++ [' ', '}', '}'])

/-- A reference opens with two braces. -/
theorem reference_eq (name : String) : reference name = '{' :: '{' :: named name := by
  change "\x7b\x7b $".toList ++ name.toList ++ " \x7d\x7d".toList = _
  simp [named]

/-- A reference ends with a brace. -/
theorem getLast?_reference (name : String) : (reference name).getLast? = some '}' := by
  have hlast : reference name =
      ('{' :: '{' :: ' ' :: '$' :: name.toList ++ [' ', '}']) ++ ['}'] := by
    simp [reference_eq, named]
  rw [hlast, List.getLast?_concat]

/-- No brace opens inside of a reference. -/
theorem notMem_named {name : String} (h : IsPlain name) : '{' ∉ named name := by
  simp [named, h.1]

/-- What starts with a reference starts with no other one. -/
theorem reference_prefix_iff {name name' : String} (h : IsPlain name) (h' : IsPlain name')
    {s : List Char} : reference name <+: reference name' ++ s ↔ name = name' := by
  constructor
  · rintro ⟨rest, heq⟩
    -- Either name with the blank behind it goes up to the first brace that closes.
    have htake (word : String) (hword : IsPlain word) (t : List Char) :
        (word.toList ++ ' ' :: '}' :: t).takeWhile (· ≠ '}') = word.toList ++ [' '] := by
      have hall : ∀ c ∈ word.toList, decide (c ≠ '}') = true := by
        intro c hc
        rw [decide_eq_true_eq]
        rintro rfl
        exact hword.2 hc
      rw [List.takeWhile_append_of_pos hall]
      rfl
    have hinside : name.toList ++ ' ' :: '}' :: '}' :: rest =
        name'.toList ++ ' ' :: '}' :: '}' :: s := by
      simpa [reference_eq, named] using heq
    have hnames := congrArg (List.takeWhile (· ≠ '}')) hinside
    rw [htake name h, htake name' h'] at hnames
    exact String.toList_inj.1 (List.append_cancel_right hnames)
  · rintro rfl
    exact List.prefix_append _ s

/-- What starts within a reference is none. -/
theorem not_reference_prefix_append (name : String) {name' : String} (h' : IsPlain name')
    {part rest : List Char} (hpart : part ≠ []) (hrest : rest ≠ [])
    (heq : reference name' = part ++ rest) (s : List Char) : ¬ reference name <+: rest ++ s := by
  obtain ⟨c, rest, rfl⟩ := List.exists_cons_of_ne_nil hrest
  rw [reference_eq] at heq ⊢
  intro hstarts
  obtain ⟨rfl, htail⟩ := List.cons_prefix_cons.1 hstarts
  match part, hpart with
  | [d], _ =>
    -- What starts with the second brace goes on with a blank.
    obtain ⟨rfl, hnamed⟩ := List.cons.inj heq
    rw [← (List.cons.inj hnamed).2] at htail
    exact absurd (List.cons_prefix_cons.1 htail).1 (by decide)
  | d :: e :: part, _ =>
    simp only [List.cons_append, List.cons.injEq] at heq
    apply notMem_named h'
    rw [heq.2.2]
    exact List.mem_append_right part List.mem_cons_self

/-- A reference that starts before another one ends before it. -/
theorem reference_prefix_append_iff {name : String} (h : IsPlain name) {before : List Char}
    (hbefore : before ≠ []) (name' : String) (s : List Char) :
    reference name <+: before ++ (reference name' ++ s) ↔ reference name <+: before := by
  constructor
  · rintro ⟨rest, heq⟩
    rcases List.append_eq_append_iff.1 heq with ⟨more, hmore, -⟩ | ⟨tail, htail, hrest⟩
    · exact ⟨more, hmore.symm⟩
    · by_cases hnone : tail = []
      · rw [hnone, List.append_nil] at htail
        exact ⟨[], by rw [htail, List.append_nil]⟩
      · -- The other reference would start within this one.
        refine absurd ?_ (not_reference_prefix_append name' h hbefore hnone htail rest)
        rw [← hrest]
        exact List.prefix_append _ s
  · exact fun hstarts => hstarts.trans (List.prefix_append _ _)

/-! ## Filling in at once -/

/-- The variable that a text starts with a reference to: its value, and what follows. -/
def nextReference? (globals : Globals) (s : List Char) : Option (List Char × List Char) :=
  globals.findSome? fun g => (dropExpected? (reference g.1) s).map fun rest => (g.2.toList, rest)

/-- A text that starts with a reference to a variable. -/
theorem exists_of_nextReference? {globals : Globals} {s value rest : List Char}
    (h : nextReference? globals s = some (value, rest)) :
    ∃ g ∈ globals, value = g.2.toList ∧ s = reference g.1 ++ rest := by
  obtain ⟨g, hg, hfound⟩ := List.exists_of_findSome?_eq_some h
  obtain ⟨rest', hrest, heq⟩ := Option.map_eq_some_iff.1 hfound
  cases heq
  exact ⟨g, hg, rfl, eq_append_of_dropExpected? hrest⟩

/-- What follows a reference is shorter than the text that starts with it. -/
theorem length_of_nextReference? {globals : Globals} {s value rest : List Char}
    (h : nextReference? globals s = some (value, rest)) : rest.length < s.length := by
  obtain ⟨g, -, -, rfl⟩ := exists_of_nextReference? h
  simp [reference_eq]
  omega

/-- A text with every reference to the variables replaced by their values, in a single pass. -/
def fillChars (globals : Globals) (s : List Char) : List Char :=
  match _h : nextReference? globals s with
  | some (value, rest) => value ++ fillChars globals rest
  | none =>
    match s with
    | [] => []
    | c :: s => c :: fillChars globals s
termination_by s.length
decreasing_by
  · exact length_of_nextReference? _h
  · simp

/-- A text with every reference to the variables replaced by their values, in a single pass. -/
def fillAtOnce (globals : Globals) (text : String) : String :=
  String.ofList (fillChars globals text.toList)

/-- Variables that can be told apart: their names are distinct and have no braces. -/
structure Proper (globals : Globals) : Prop where
  plain : ∀ g ∈ globals, IsPlain g.1
  nodup : (globals.map Prod.fst).Nodup

/-- Some of the variables can be told apart where all can. -/
theorem Proper.of_append {earlier later : Globals} (h : Proper (earlier ++ later)) :
    Proper earlier where
  plain g hg := h.plain g (List.mem_append_left later hg)
  nodup := by
    have hnodup := h.nodup
    rw [List.map_append] at hnodup
    exact hnodup.of_append_left

/-- Variables of one name are one. -/
theorem Proper.eq_of_name {globals : Globals} (h : Proper globals) {g g' : String × String}
    (hg : g ∈ globals) (hg' : g' ∈ globals) (hname : g.1 = g'.1) : g = g' :=
  List.inj_on_of_nodup_map h.nodup hg hg' hname

section

variable {globals : Globals}

@[simp]
theorem fillChars_nil : fillChars globals [] = [] := by
  rw [fillChars]
  split
  · next h => have := length_of_nextReference? h; simp at this
  · rfl

/-- A reference gives way to the value of its variable. -/
theorem fillChars_reference (h : Proper globals) {g : String × String} (hg : g ∈ globals)
    (s : List Char) :
    fillChars globals (reference g.1 ++ s) = g.2.toList ++ fillChars globals s := by
  rw [fillChars]
  split
  · next value rest hnext =>
    obtain ⟨g', hg', rfl, heq⟩ := exists_of_nextReference? hnext
    have hname : g.1 = g'.1 := by
      rw [← reference_prefix_iff (h.plain g hg) (h.plain g' hg') (s := rest), ← heq]
      exact List.prefix_append _ s
    cases h.eq_of_name hg hg' hname
    rw [List.append_cancel_left heq]
  · next hnone =>
    have hfound := List.findSome?_eq_none_iff.1 hnone g hg
    rw [dropExpected?_append] at hfound
    cases hfound

/-- A character with which no reference starts stays. -/
theorem fillChars_cons {c : Char} {s : List Char}
    (h : ∀ g ∈ globals, ¬ reference g.1 <+: c :: s) :
    fillChars globals (c :: s) = c :: fillChars globals s := by
  rw [fillChars]
  split
  · next hnext =>
    obtain ⟨g, hg, -, heq⟩ := exists_of_nextReference? hnext
    exact absurd ⟨_, heq.symm⟩ (h g hg)
  · rfl

/-- A property of texts holds if it holds of the empty text, at a reference to a variable if it
holds behind it, and at every other character if it holds behind that. -/
theorem fill_induction (globals : Globals) {motive : List Char → Prop} (nil : motive [])
    (reference : ∀ g ∈ globals, ∀ s, motive s → motive (reference g.1 ++ s))
    (other : ∀ c s, (∀ g ∈ globals, ¬ Assembly.reference g.1 <+: c :: s) → motive s →
      motive (c :: s)) (s : List Char) : motive s := by
  match s with
  | [] => exact nil
  | c :: t =>
    by_cases hstarts : ∃ g ∈ globals, Assembly.reference g.1 <+: c :: t
    · obtain ⟨g, hg, rest, heq⟩ := hstarts
      have hshorter : rest.length < (c :: t).length := by
        rw [← heq, reference_eq]
        simp
        omega
      rw [← heq]
      exact reference g hg rest (fill_induction globals nil reference other rest)
    · refine other c t (fun g hg hhere => hstarts ⟨g, hg, hhere⟩) ?_
      exact fill_induction globals nil reference other t
termination_by s.length
decreasing_by
  · exact hshorter
  · exact Nat.lt_succ_self t.length

/-- A reference cuts a text into parts that are filled in by themselves. -/
theorem fillChars_append (h : Proper globals) (before : List Char) (name : String)
    (s : List Char) :
    fillChars globals (before ++ (reference name ++ s)) =
      fillChars globals before ++ fillChars globals (reference name ++ s) := by
  induction before using fill_induction globals with
  | nil => rw [fillChars_nil, List.nil_append, List.nil_append]
  | reference g hg before ih =>
    rw [List.append_assoc, fillChars_reference h hg, fillChars_reference h hg, ih,
      List.append_assoc]
  | other c before hnone ih =>
    have hnone' : ∀ g ∈ globals, ¬ reference g.1 <+: c :: (before ++ (reference name ++ s)) := by
      intro g hg
      have hiff := reference_prefix_append_iff (h.plain g hg) (List.cons_ne_nil c before) name s
      rw [List.cons_append] at hiff
      rw [hiff]
      exact hnone g hg
    rw [List.cons_append, fillChars_cons hnone', fillChars_cons hnone, ih, List.cons_append]

/-- A reference to another variable stays. -/
theorem fillChars_other (h : Proper globals) {name : String} (hname : IsPlain name)
    (hother : name ∉ globals.map Prod.fst) (s : List Char) :
    fillChars globals (reference name ++ s) = reference name ++ fillChars globals s := by
  -- No reference to a variable starts with it or within it.
  have hparts (rest part : List Char) (heq : reference name = part ++ rest) :
      fillChars globals (rest ++ s) = rest ++ fillChars globals s := by
    induction rest generalizing part with
    | nil => rfl
    | cons c rest ih =>
      have hnone : ∀ g ∈ globals, ¬ reference g.1 <+: c :: (rest ++ s) := by
        intro g hg hstarts
        rw [← List.cons_append] at hstarts
        by_cases hpart : part = []
        · rw [hpart, List.nil_append] at heq
          rw [← heq, reference_prefix_iff (h.plain g hg) hname] at hstarts
          exact hother (hstarts ▸ List.mem_map_of_mem hg)
        · exact not_reference_prefix_append g.1 hname hpart (List.cons_ne_nil c rest) heq s hstarts
      rw [List.cons_append, fillChars_cons hnone, ih (part ++ [c]) (by simpa using heq),
        List.cons_append]
  exact hparts (reference name) [] rfl

end

/-! ## Occurrences -/

/-- How often a text stands in another. -/
def occurrences (part : List Char) : List Char → Nat
  | [] => 0
  | c :: s => (if part <+: c :: s then 1 else 0) + occurrences part s

/-- What a text stands in holds it somewhere. -/
theorem exists_of_occurrences {part s : List Char} (h : occurrences part s ≠ 0) :
    ∃ before rest, s = before ++ (part ++ rest) := by
  induction s with
  | nil => exact absurd rfl h
  | cons c s ih =>
    by_cases hstarts : part <+: c :: s
    · obtain ⟨rest, heq⟩ := hstarts
      exact ⟨[], rest, heq.symm⟩
    · rw [occurrences, if_neg hstarts, Nat.zero_add] at h
      obtain ⟨before, rest, rfl⟩ := ih h
      exact ⟨c :: before, rest, rfl⟩

/-- A text stands in another one as often as behind what precedes, or more often. -/
theorem occurrences_le_append (part before s : List Char) :
    occurrences part s ≤ occurrences part (before ++ s) := by
  induction before with
  | nil => exact Nat.le_refl _
  | cons c before ih =>
    rw [List.cons_append, occurrences]
    omega

/-- A property of texts holds if it holds of those without a reference, and of a text that one
cuts if it holds of the parts. -/
theorem cut_induction (name : String) {motive : List Char → Prop}
    (none : ∀ s, occurrences (reference name) s = 0 → motive s)
    (cut : ∀ before s, motive before → motive s → motive (before ++ (reference name ++ s)))
    (s : List Char) : motive s := by
  by_cases hnone : occurrences (reference name) s = 0
  · exact none s hnone
  · obtain ⟨before, rest, heq⟩ := exists_of_occurrences hnone
    have hshorter : before.length < s.length ∧ rest.length < s.length := by
      rw [heq, reference_eq]
      simp
      omega
    have hbefore := cut_induction name none cut before
    have hrest := cut_induction name none cut rest
    rw [heq]
    exact cut before rest hbefore hrest
termination_by s.length
decreasing_by
  · exact hshorter.1
  · exact hshorter.2

/-- A reference stands in the parts of a text that another one cuts. -/
theorem occurrences_append {name : String} (h : IsPlain name) (before : List Char)
    (name' : String) (s : List Char) :
    occurrences (reference name) (before ++ (reference name' ++ s)) =
      occurrences (reference name) before +
        occurrences (reference name) (reference name' ++ s) := by
  induction before with
  | nil => simp [occurrences]
  | cons c before ih =>
    have hiff := reference_prefix_append_iff h (List.cons_ne_nil c before) name' s
    rw [List.cons_append] at hiff
    rw [List.cons_append, occurrences, ih, occurrences]
    simp only [hiff, Nat.add_assoc]

/-- A reference stands once in itself, and not in another one. -/
theorem occurrences_reference {name name' : String} (h : IsPlain name) (h' : IsPlain name')
    (s : List Char) :
    occurrences (reference name) (reference name' ++ s) =
      (if name = name' then 1 else 0) + occurrences (reference name) s := by
  -- Behind its first character no reference starts within it.
  have hparts (rest part : List Char) (hpart : part ≠ []) (heq : reference name' = part ++ rest) :
      occurrences (reference name) (rest ++ s) = occurrences (reference name) s := by
    induction rest generalizing part with
    | nil => rfl
    | cons c rest ih =>
      have hnone := not_reference_prefix_append name h' hpart (List.cons_ne_nil c rest) heq s
      rw [List.cons_append] at hnone
      rw [List.cons_append, occurrences, if_neg hnone, Nat.zero_add,
        ih (part ++ [c]) (by simp) (by simpa using heq)]
  have hopen : reference name' = '{' :: ('{' :: named name') := reference_eq name'
  have hrest := hparts ('{' :: named name') ['{'] (by simp) hopen
  have hiff := reference_prefix_iff h h' (s := s)
  rw [hopen, List.cons_append] at hiff ⊢
  rw [occurrences, hrest]
  simp only [hiff]

/-! ## One more variable -/

/-- A single variable can be told apart. -/
theorem proper_single {g : String × String} (h : IsPlain g.1) : Proper [g] where
  plain g' hg' := by rwa [List.mem_singleton.1 hg']
  nodup := List.nodup_singleton g.1

/-- A single variable is one more than none. -/
theorem proper_nil_append {g : String × String} (h : IsPlain g.1) : Proper ([] ++ [g]) :=
  proper_single h

/-- Filling in a single variable is replacing its reference. -/
theorem replace_reference {g : String × String} (h : IsPlain g.1) (s : List Char) :
    replace (reference g.1) g.2.toList s = fillChars [g] s := by
  rw [reference_eq]
  change replaceAll '{' ('{' :: named g.1) g.2.toList s = _
  induction s using fill_induction [g] with
  | nil => rw [fillChars_nil, replaceAll]
  | reference g' hg' s ih =>
    cases List.mem_singleton.1 hg'
    rw [fillChars_reference (proper_single h) hg', ← ih, reference_eq]
    exact replaceAll_append '{' ('{' :: named g.1) g.2.toList s
  | other c s hnone ih =>
    rw [fillChars_cons hnone, ← ih, replaceAll]
    split
    · next rest hrest =>
      have heq := eq_append_of_dropExpected? hrest
      rw [← reference_eq] at heq
      exact absurd ⟨rest, heq.symm⟩ (hnone g List.mem_cons_self)
    · rfl

section

variable {globals : Globals} {g : String × String}

/-- The last of some variables is plain and none of the others. -/
theorem Proper.last (h : Proper (globals ++ [g])) :
    IsPlain g.1 ∧ g.1 ∉ globals.map Prod.fst := by
  refine ⟨h.plain g (by simp), fun hmem => ?_⟩
  have hnodup := h.nodup
  rw [List.map_append, List.nodup_append] at hnodup
  exact hnodup.2.2 g.1 hmem g.1 (by simp) rfl

/-- Each of some variables is the last, or one of the others and of another name. -/
theorem Proper.mem_append (h : Proper (globals ++ [g])) {g' : String × String}
    (hg' : g' ∈ globals ++ [g]) : g' ∈ globals ∧ g.1 ≠ g'.1 ∨ g' = g := by
  rcases List.mem_append.1 hg' with hearlier | hlast
  · refine .inl ⟨hearlier, fun heq => h.last.2 ?_⟩
    rw [heq]
    exact List.mem_map_of_mem hearlier
  · exact .inr (List.mem_singleton.1 hlast)

/-- No reference to a variable starts where none to it or to one more does. -/
theorem forall_not_prefix_append {s : List Char}
    (h : ∀ g' ∈ globals ++ [g], ¬ reference g'.1 <+: s) :
    (∀ g' ∈ globals, ¬ reference g'.1 <+: s) ∧ ¬ reference g.1 <+: s :=
  ⟨fun g' hg' => h g' (List.mem_append_left _ hg'), h g (by simp)⟩

/-- What one more variable does to the length of a text. -/
theorem length_fillChars_append (h : Proper (globals ++ [g])) (s : List Char) :
    (fillChars (globals ++ [g]) s).length +
        occurrences (reference g.1) s * (reference g.1).length =
      (fillChars globals s).length + occurrences (reference g.1) s * g.2.toList.length := by
  obtain ⟨hplain, hother⟩ := h.last
  induction s using fill_induction (globals ++ [g]) with
  | nil => simp [occurrences]
  | reference g' hg' s ih =>
    rw [fillChars_reference h hg', occurrences_reference hplain (h.plain g' hg')]
    rcases h.mem_append hg' with ⟨hg, hne⟩ | rfl
    · rw [fillChars_reference h.of_append hg, if_neg hne, Nat.zero_add, List.length_append,
        List.length_append]
      omega
    · rw [fillChars_other h.of_append hplain hother, if_pos rfl, List.length_append,
        List.length_append, Nat.add_mul, Nat.add_mul]
      omega
  | other c s hnone ih =>
    obtain ⟨hnone', hlast⟩ := forall_not_prefix_append hnone
    rw [fillChars_cons hnone, fillChars_cons hnone', occurrences, if_neg hlast, Nat.zero_add,
      List.length_cons, List.length_cons]
    omega

/-- One more variable changes nothing where its value is its reference, or where there is no
reference to it. -/
theorem fillChars_append_eq (h : Proper (globals ++ [g])) {s : List Char}
    (hnothing : g.2.toList = reference g.1 ∨ occurrences (reference g.1) s = 0) :
    fillChars (globals ++ [g]) s = fillChars globals s := by
  obtain ⟨hplain, hother⟩ := h.last
  induction s using fill_induction (globals ++ [g]) with
  | nil => rw [fillChars_nil, fillChars_nil]
  | reference g' hg' s ih =>
    rw [fillChars_reference h hg']
    rw [occurrences_reference hplain (h.plain g' hg'), Nat.add_eq_zero_iff] at hnothing
    rw [ih (hnothing.imp_right And.right)]
    rcases h.mem_append hg' with ⟨hg, -⟩ | rfl
    · rw [fillChars_reference h.of_append hg]
    · rw [fillChars_other h.of_append hplain hother]
      rcases hnothing with hsame | ⟨hone, -⟩
      · rw [hsame]
      · simp at hone
  | other c s hnone ih =>
    obtain ⟨hnone', hlast⟩ := forall_not_prefix_append hnone
    rw [occurrences, if_neg hlast, Nat.zero_add] at hnothing
    rw [fillChars_cons hnone, fillChars_cons hnone', ih hnothing]

/-- Filling in variables loses no reference to another one. -/
theorem occurrences_le (h : Proper (globals ++ [g])) (s : List Char) :
    occurrences (reference g.1) s ≤ occurrences (reference g.1) (fillChars globals s) := by
  obtain ⟨hplain, hother⟩ := h.last
  induction s using fill_induction (globals ++ [g]) with
  | nil => exact Nat.zero_le _
  | reference g' hg' s ih =>
    rw [occurrences_reference hplain (h.plain g' hg')]
    rcases h.mem_append hg' with ⟨hg, hne⟩ | rfl
    · rw [fillChars_reference h.of_append hg, if_neg hne, Nat.zero_add]
      exact ih.trans (occurrences_le_append _ _ _)
    · rw [fillChars_other h.of_append hplain hother, occurrences_reference hplain hplain]
      omega
  | other c s hnone ih =>
    obtain ⟨hnone', hlast⟩ := forall_not_prefix_append hnone
    rw [fillChars_cons hnone', occurrences, if_neg hlast, Nat.zero_add]
    exact ih.trans (occurrences_le_append _ [c] _)

/-- How the texts around a reference to one more variable are filled in without it. -/
theorem fillChars_cut (h : Proper (globals ++ [g])) (before s : List Char) :
    fillChars globals (before ++ (reference g.1 ++ s)) =
      fillChars globals before ++ (reference g.1 ++ fillChars globals s) := by
  rw [fillChars_append h.of_append, fillChars_other h.of_append h.last.1 h.last.2]

/-- How the texts around a reference to one more variable are filled in with it. -/
theorem fillChars_append_cut (h : Proper (globals ++ [g])) (before s : List Char) :
    fillChars (globals ++ [g]) (before ++ (reference g.1 ++ s)) =
      fillChars (globals ++ [g]) before ++ (g.2.toList ++ fillChars (globals ++ [g]) s) := by
  rw [fillChars_append h, fillChars_reference h (by simp)]

/-- A reference is one more than those around it. -/
theorem occurrences_cut {name : String} (h : IsPlain name) (before s : List Char) :
    occurrences (reference name) (before ++ (reference name ++ s)) =
      occurrences (reference name) before + occurrences (reference name) s + 1 := by
  rw [occurrences_append h, occurrences_reference h h, if_pos rfl]
  omega

/-- Without variables nothing is filled in. -/
theorem fillChars_none (s : List Char) : fillChars [] s = s := by
  induction s using fill_induction [] with
  | nil => exact fillChars_nil
  | reference g hg => cases hg
  | other c s hnone ih => rw [fillChars_cons hnone, ih]

/-- A single variable changes the length of a text with each reference to it. -/
theorem length_fillChars_single (h : IsPlain g.1) (s : List Char) :
    (fillChars [g] s).length + occurrences (reference g.1) s * (reference g.1).length =
      s.length + occurrences (reference g.1) s * g.2.toList.length := by
  have hlength := length_fillChars_append (proper_nil_append h) s
  rwa [List.nil_append, fillChars_none] at hlength

/-- A single variable changes nothing exactly where its value is its reference, or where there is
no reference to it. -/
theorem fillChars_single_eq_self_iff (h : IsPlain g.1) (s : List Char) :
    fillChars [g] s = s ↔
      g.2.toList = reference g.1 ∨ occurrences (reference g.1) s = 0 := by
  constructor
  · intro heq
    by_contra hnone
    rw [not_or] at hnone
    obtain ⟨hvalue, hocc⟩ := hnone
    have hlength := length_fillChars_single h s
    have hsame : g.2.toList.length = (reference g.1).length := by
      rw [heq, Nat.add_left_cancel_iff] at hlength
      exact (Nat.eq_of_mul_eq_mul_left (Nat.pos_of_ne_zero hocc) hlength).symm
    obtain ⟨before, rest, rfl⟩ := exists_of_occurrences hocc
    have hbefore := length_fillChars_single h before
    rw [hsame, Nat.add_right_cancel_iff] at hbefore
    have hcut := fillChars_append_cut (proper_nil_append h) before rest
    rw [List.nil_append, heq] at hcut
    -- The value stands where the reference did.
    have hrest := (List.append_inj hcut hbefore.symm).2
    exact hvalue (List.append_inj hrest hsame.symm).1.symm
  · intro hnothing
    have heq := fillChars_append_eq (proper_nil_append h) hnothing
    rwa [List.nil_append, fillChars_none] at heq

/-- How the texts around a reference are filled in with its variable alone. -/
theorem fillChars_single_cut (h : IsPlain g.1) (before s : List Char) :
    fillChars [g] (before ++ (reference g.1 ++ s)) =
      fillChars [g] before ++ (g.2.toList ++ fillChars [g] s) :=
  fillChars_append_cut (proper_nil_append h) before s

/-- Where no reference arises, filling in one more variable is filling in all at once. -/
theorem fillChars_single_of_occurrences (h : Proper (globals ++ [g])) (s : List Char)
    (hocc : occurrences (reference g.1) (fillChars globals s) = occurrences (reference g.1) s) :
    fillChars [g] (fillChars globals s) = fillChars (globals ++ [g]) s := by
  have hplain := h.last.1
  induction s using cut_induction g.1 with
  | none s hnone =>
    rw [fillChars_append_eq h (.inr hnone), fillChars_single_eq_self_iff hplain, hocc]
    exact .inr hnone
  | cut before s ihBefore ih =>
    rw [fillChars_cut h, occurrences_cut hplain, occurrences_cut hplain] at hocc
    have hbefore := occurrences_le h before
    have hrest := occurrences_le h s
    rw [fillChars_cut h, fillChars_single_cut hplain, fillChars_append_cut h,
      ihBefore (by omega), ih (by omega)]

/-- A value as long as its reference does not make up for a reference that arises, unless it is
the reference. -/
theorem occurrences_of_fillChars_single (h : Proper (globals ++ [g])) (s : List Char)
    (hsame : g.2.toList.length = (reference g.1).length)
    (heq : fillChars [g] (fillChars globals s) = fillChars (globals ++ [g]) s) :
    g.2.toList = reference g.1 ∨
      occurrences (reference g.1) (fillChars globals s) = occurrences (reference g.1) s := by
  have hplain := h.last.1
  induction s using cut_induction g.1 with
  | none s hnone =>
    rw [fillChars_append_eq h (.inr hnone), fillChars_single_eq_self_iff hplain] at heq
    rwa [hnone]
  | cut before s ihBefore ih =>
    rw [fillChars_cut h, fillChars_single_cut hplain, fillChars_append_cut h] at heq
    -- Both sides are cut at the same places.
    have hone := length_fillChars_single hplain (fillChars globals before)
    have hall := length_fillChars_append h before
    rw [hsame, Nat.add_right_cancel_iff] at hone hall
    obtain ⟨hbefore, hbehind⟩ := List.append_inj heq (hone.trans hall.symm)
    rw [fillChars_cut h, occurrences_cut hplain, occurrences_cut hplain]
    rcases ihBefore hbefore with hvalue | hbefore
    · exact .inl hvalue
    · rcases ih (List.append_cancel_left hbehind) with hvalue | hrest
      · exact .inl hvalue
      · rw [hbefore, hrest]
        exact .inr rfl

/-- Where each reference changes the length, and by as much, texts that change by the same hold as
many. -/
theorem eq_of_length_change {before after m n reference value : Nat} (hchange : reference ≠ value)
    (hm : after + m * reference = before + m * value)
    (hn : after + n * reference = before + n * value) : m = n := by
  have hproduct : ((m : Int) - n) * (reference - value) = 0 := by
    rw [Int.sub_mul, Int.mul_sub, Int.mul_sub]
    omega
  rcases Int.mul_eq_zero.1 hproduct with hsame | hsame
  · omega
  · exact absurd (by omega) hchange

/-- Filling in one more variable is filling in all at once exactly where no reference to it
arises, or where its value is the reference. -/
theorem fillChars_single_eq_iff (h : Proper (globals ++ [g])) (s : List Char) :
    fillChars [g] (fillChars globals s) = fillChars (globals ++ [g]) s ↔
      g.2.toList = reference g.1 ∨
        occurrences (reference g.1) (fillChars globals s) = occurrences (reference g.1) s := by
  constructor
  · intro heq
    by_cases hsame : g.2.toList.length = (reference g.1).length
    · exact occurrences_of_fillChars_single h s hsame heq
    · have hone := length_fillChars_single h.last.1 (fillChars globals s)
      have hall := length_fillChars_append h s
      rw [heq] at hone
      exact .inr (eq_of_length_change (Ne.symm hsame) hone hall)
  · rintro (hvalue | hocc)
    · rw [fillChars_append_eq h (.inl hvalue), fillChars_single_eq_self_iff h.last.1]
      exact .inl hvalue
    · exact fillChars_single_of_occurrences h s hocc

end

/-! ## All variables -/

/-- A text with the references to variables replaced by their values, one variable after the
other. -/
def fillInTurn (globals : Globals) (s : List Char) : List Char :=
  globals.foldl (fun text g => replace (reference g.1) g.2.toList text) s

/-- Filling in a text does so with its characters. -/
theorem fillGlobals_eq (globals : Globals) (text : String) :
    fillGlobals globals text = String.ofList (fillInTurn globals text.toList) := rfl

/-- The last variable is filled in over what the others leave. -/
theorem fillInTurn_append {globals : Globals} {g : String × String} (h : IsPlain g.1)
    (s : List Char) : fillInTurn (globals ++ [g]) s = fillChars [g] (fillInTurn globals s) := by
  rw [fillInTurn, List.foldl_append, List.foldl_cons, List.foldl_nil, replace_reference h,
    fillInTurn]

/-- With the variables before any one filled in, no reference to it arises that was not in the
text, or its value is the reference again. -/
def NoneArises (globals : Globals) (s : List Char) : Prop :=
  ∀ earlier g later, globals = earlier ++ g :: later →
    g.2.toList = reference g.1 ∨
      occurrences (reference g.1) (fillChars earlier s) = occurrences (reference g.1) s

/-- After each variable the text is as if those up to it were filled in at once, exactly where
no reference arises on the way. -/
theorem fillInTurn_eq_iff {globals : Globals} (h : Proper globals) (s : List Char) :
    (∀ earlier later, globals = earlier ++ later →
        fillInTurn earlier s = fillChars earlier s) ↔ NoneArises globals s := by
  constructor
  · intro hall earlier g later heq
    have heq' : globals = (earlier ++ [g]) ++ later := by
      rw [heq, List.append_assoc, List.singleton_append]
    have hproper : Proper (earlier ++ [g]) := (heq' ▸ h).of_append
    have hlast := hall (earlier ++ [g]) later heq'
    rw [fillInTurn_append hproper.last.1, hall earlier (g :: later) heq] at hlast
    exact (fillChars_single_eq_iff hproper s).1 hlast
  · intro hnone earlier
    induction earlier using List.reverseRecOn with
    | nil =>
      intro later _
      rw [fillInTurn, List.foldl_nil, fillChars_none]
    | append_singleton earlier g ih =>
      intro later heq
      have hproper : Proper (earlier ++ [g]) := (heq ▸ h).of_append
      rw [List.append_assoc, List.singleton_append] at heq
      rw [fillInTurn_append hproper.last.1, ih (g :: later) heq]
      exact (fillChars_single_eq_iff hproper s).2 (hnone earlier g later heq)

/-- Variables can be told apart in any order. -/
theorem Proper.perm {globals order : Globals} (h : Proper globals)
    (horder : order.Perm globals) : Proper order where
  plain g hg := h.plain g (horder.mem_iff.1 hg)
  nodup := (horder.map Prod.fst).nodup_iff.2 h.nodup

/-- The order of variables that are filled in at once does not matter. -/
theorem fillChars_perm {globals order : Globals} (h : Proper globals)
    (horder : order.Perm globals) (s : List Char) : fillChars order s = fillChars globals s := by
  induction s using fill_induction globals with
  | nil => rw [fillChars_nil, fillChars_nil]
  | reference g hg s ih =>
    rw [fillChars_reference h hg, fillChars_reference (h.perm horder) (horder.mem_iff.2 hg), ih]
  | other c s hnone ih =>
    rw [fillChars_cons hnone, fillChars_cons fun g hg => hnone g (horder.mem_iff.1 hg), ih]

/-! ## Values that are no part of a reference -/

/-- A value that cannot be part of a reference to one of the variables: it has no braces, and some
character that no reference has. -/
def IsInert (globals : Globals) (value : String) : Prop :=
  '{' ∉ value.toList ∧ '}' ∉ value.toList ∧
    ∃ c ∈ value.toList, ∀ g ∈ globals, c ∉ reference g.1

instance (globals : Globals) : DecidablePred (IsInert globals) := fun value =>
  haveI := List.decidableBEx (fun c => ∀ g ∈ globals, c ∉ reference g.1) value.toList
  inferInstanceAs (Decidable ('{' ∉ value.toList ∧ '}' ∉ value.toList ∧
    ∃ c ∈ value.toList, ∀ g ∈ globals, c ∉ reference g.1))

/-- A text without braces that open holds no reference, nor the start of one. -/
theorem occurrences_append_of_notMem {before : List Char} (h : '{' ∉ before) (name : String)
    (s : List Char) :
    occurrences (reference name) (before ++ s) = occurrences (reference name) s := by
  induction before with
  | nil => rfl
  | cons c before ih =>
    rw [List.mem_cons, not_or] at h
    have hnone : ¬ reference name <+: c :: (before ++ s) := by
      rw [reference_eq]
      exact fun hstarts => h.1 (List.cons_prefix_cons.1 hstarts).1
    rw [List.cons_append, occurrences, if_neg hnone, Nat.zero_add, ih h.2]

section

variable {globals : Globals} {g : String × String}

/-- The end of a reference does not reach into a value that is no part of it. -/
theorem prefix_of_prefix_fillChars (h : Proper globals)
    (hinert : ∀ g' ∈ globals, IsInert [g] g'.2) {part s : List Char}
    (hpart : part.Sublist (reference g.1)) (hlast : part.getLast? = some '}')
    (hstarts : part <+: fillChars globals s) : part <+: s := by
  induction s using fill_induction globals generalizing part with
  | nil => rwa [fillChars_nil] at hstarts
  | reference g' hg' s ih =>
    obtain ⟨-, hclose, c, hc, hforeign⟩ := hinert g' hg'
    rw [fillChars_reference h hg'] at hstarts
    exfalso
    obtain ⟨rest, heq⟩ := hstarts
    rcases List.append_eq_append_iff.1 heq with ⟨more, hmore, -⟩ | ⟨tail, htail, -⟩
    · -- All of the part would stand in the value, with its last brace.
      have hbrace := List.mem_of_getLast? hlast
      exact hclose (hmore ▸ List.mem_append_left more hbrace)
    · -- All of the value would stand in the part, with the character that no reference has.
      have hmem : c ∈ part := htail ▸ List.mem_append_left tail hc
      exact hforeign g List.mem_cons_self (hpart.subset hmem)
  | other c s hnone ih =>
    rw [fillChars_cons hnone] at hstarts
    cases part with
    | nil => exact List.nil_prefix
    | cons d part =>
      obtain ⟨rfl, hrest⟩ := List.cons_prefix_cons.1 hstarts
      refine List.cons_prefix_cons.2 ⟨rfl, ?_⟩
      cases part with
      | nil => exact List.nil_prefix
      | cons e part =>
        refine ih ((List.sublist_cons_self d _).trans hpart) ?_ hrest
        rwa [List.getLast?_cons_cons] at hlast

/-- Values that are no part of a reference bring none about. -/
theorem occurrences_fillChars_of_inert (h : Proper (globals ++ [g]))
    (hinert : ∀ g' ∈ globals, IsInert [g] g'.2) (s : List Char) :
    occurrences (reference g.1) (fillChars globals s) = occurrences (reference g.1) s := by
  obtain ⟨hplain, hother⟩ := h.last
  induction s using fill_induction (globals ++ [g]) with
  | nil => rw [fillChars_nil]
  | reference g' hg' s ih =>
    rw [occurrences_reference hplain (h.plain g' hg')]
    rcases h.mem_append hg' with ⟨hg, hne⟩ | rfl
    · rw [fillChars_reference h.of_append hg, if_neg hne, Nat.zero_add,
        occurrences_append_of_notMem (hinert g' hg).1, ih]
    · rw [fillChars_other h.of_append hplain hother, occurrences_reference hplain hplain, ih]
  | other c s hnone ih =>
    obtain ⟨hnone', hlast⟩ := forall_not_prefix_append hnone
    have hnot : ¬ reference g.1 <+: c :: fillChars globals s := by
      intro hstarts
      apply hlast
      rw [← fillChars_cons hnone'] at hstarts
      exact prefix_of_prefix_fillChars h.of_append hinert (List.Sublist.refl _)
        (getLast?_reference g.1) hstarts
    rw [fillChars_cons hnone', occurrences, if_neg hnot, occurrences, if_neg hlast, ih]

end

/-- Filling in variables one after the other leaves the text, after each of them, as if those up to
it were filled in at once, in a single pass over the original, exactly where no reference arises
on the way.  What is filled in at once does not depend on the order of the variables.  Values
that are no part of a reference bring none about: then any order leaves the same text. -/
theorem fills_in_at_once_iff {globals : Globals} (h : Proper globals) (text : String) :
    ((∀ earlier later, globals = earlier ++ later →
        fillGlobals earlier text = fillAtOnce earlier text) ↔ NoneArises globals text.toList) ∧
    (∀ order, order.Perm globals → fillAtOnce order text = fillAtOnce globals text) ∧
    ((∀ g ∈ globals, IsInert globals g.2) → ∀ order, order.Perm globals →
      fillGlobals order text = fillAtOnce globals text) := by
  have hperm (order : Globals) (horder : order.Perm globals) :
      fillAtOnce order text = fillAtOnce globals text :=
    congrArg String.ofList (fillChars_perm h horder text.toList)
  refine ⟨?_, hperm, ?_⟩
  · simp only [fillGlobals_eq, fillAtOnce, String.ofList_inj]
    exact fillInTurn_eq_iff h text.toList
  · intro hinert order horder
    have hnone : NoneArises order text.toList := by
      intro earlier g later heq
      have hproper : Proper (earlier ++ [g]) := by
        have hall := h.perm horder
        rw [heq, ← List.singleton_append, ← List.append_assoc] at hall
        exact hall.of_append
      refine .inr (occurrences_fillChars_of_inert hproper ?_ text.toList)
      intro g' hg'
      have hmem (g'' : String × String) (hg'' : g'' ∈ earlier ++ g :: later) : g'' ∈ globals :=
        horder.mem_iff.1 (heq ▸ hg'')
      obtain ⟨hopen, hclose, c, hc, hforeign⟩ := hinert g' (hmem g' (by simp [hg']))
      refine ⟨hopen, hclose, c, hc, fun g'' hg'' => ?_⟩
      rw [List.mem_singleton.1 hg'']
      exact hforeign g (hmem g (by simp))
    rw [← hperm order horder, fillGlobals_eq, fillAtOnce]
    exact congrArg String.ofList
      ((fillInTurn_eq_iff (h.perm horder) text.toList).2 hnone order [] (by simp))

/-- The usual values are no part of a reference. -/
theorem usual_globals_at_once :
    Proper (ScriptText.globals .standard 0) ∧
    (∀ g ∈ ScriptText.globals .standard 0, IsInert (ScriptText.globals .standard 0) g.2) ∧
    fillGlobals (ScriptText.globals .standard 0) "# {{ $homepage }} {{ $date }} {{ $other }}" =
      fillAtOnce (ScriptText.globals .standard 0) "# {{ $homepage }} {{ $date }} {{ $other }}" := by
  have hproper : Proper (ScriptText.globals .standard 0) :=
    ⟨by decide, by decide⟩
  have hinert : ∀ g ∈ ScriptText.globals .standard 0,
      IsInert (ScriptText.globals .standard 0) g.2 := by decide
  exact ⟨hproper, hinert,
    (fills_in_at_once_iff hproper _).2.2 hinert _ (List.Perm.refl _)⟩

/-- A reference in a value is filled in like those of the text. -/
theorem reference_in_value_is_filled_in :
    Proper [("homepage", "{{ $version }}"), ("version", "1.0")] ∧
    fillAtOnce [("homepage", "{{ $version }}"), ("version", "1.0")] "# {{ $homepage }}" =
      "# {{ $version }}" ∧
    fillGlobals [("homepage", "{{ $version }}"), ("version", "1.0")] "# {{ $homepage }}" ≠
      fillAtOnce [("homepage", "{{ $version }}"), ("version", "1.0")] "# {{ $homepage }}" := by
  refine ⟨⟨by decide, by decide⟩, ?_⟩
  decide +kernel

end Tweaks.Assembly
