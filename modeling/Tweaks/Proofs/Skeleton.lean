import Tweaks.Proofs.Failure

/-!
# Skeletons of texts

Filling in a template inserts values as they are.  What comes out has a skeleton: pieces
of source text, and holes for the arguments that the values were made of.  For all
arguments with the same names of which the same are empty, one skeleton serves, and only
the holes are filled differently.

Main results:

- `Alike.fill_eq_empty_iff`: texts with the same skeleton are empty together.
- `Uniform.bind`: steps that go alike for all such arguments, one after the other.
- `uniform_renderIn`: the texts of a template without pipes have one skeleton.
-/

namespace Tweaks

/-- The texts passed for parameters, by their names. -/
abbrev Arguments := List (String × String)

/-- Arguments look alike: they have the same names in the same order, and the same of
their texts are empty. -/
def Alike (given others : Arguments) : Prop :=
  List.Forall₂ (fun a b => a.1 = b.1 ∧ (a.2 = "" ↔ b.2 = "")) given others

/-- A piece of a text: a literal one, or the text of an argument. -/
inductive Piece (names : List String) where
  | literal (text : String)
  | hole (name : String) (given : name ∈ names)

/-- A text with holes for arguments. -/
abbrev Skeleton (names : List String) := List (Piece names)

/-- The text of a piece. -/
def Piece.fill {names : List String} (arguments : Arguments) : Piece names → String
  | literal text => text
  | hole name _ => (arguments.lookup name).getD ""

/-- The text that a skeleton makes of arguments, inserted as they are. -/
def Skeleton.fill {names : List String} (arguments : Arguments) : Skeleton names → String
  | [] => ""
  | piece :: rest => piece.fill arguments ++ Skeleton.fill arguments rest

/-- A skeleton behind another one. -/
@[simp]
theorem Skeleton.fill_append {names : List String} (arguments : Arguments)
    (s t : Skeleton names) : (s ++ t).fill arguments = s.fill arguments ++ t.fill arguments := by
  induction s with
  | nil => simp [fill]
  | cons piece rest ih => simp [fill, ih, String.append_assoc]

namespace Alike

variable {given others : Arguments}

/-- All arguments look like themselves. -/
theorem refl (given : Arguments) : Alike given given := by
  induction given with
  | nil => exact .nil
  | cons first rest ih => exact .cons ⟨rfl, .rfl⟩ ih

/-- Arguments that look alike have the same names. -/
theorem names_eq (h : Alike given others) : others.map Prod.fst = given.map Prod.fst := by
  induction h with
  | nil => rfl
  | cons hab _ ih => rw [List.map_cons, List.map_cons, hab.1, ih]

/-- Of arguments that look alike, the same texts are empty. -/
theorem lookup_eq_empty_iff (h : Alike given others) (name : String) :
    (given.lookup name).getD "" = "" ↔ (others.lookup name).getD "" = "" := by
  induction h with
  | nil => rfl
  | @cons a b given others hab _ ih =>
    obtain ⟨hname, htext⟩ := hab
    rw [List.lookup_cons, List.lookup_cons, ← hname]
    cases name == a.1 with
    | true => exact htext
    | false => exact ih

/-- Texts with the same skeleton are empty together. -/
theorem fill_eq_empty_iff {names : List String} (h : Alike given others)
    (s : Skeleton names) : s.fill given = "" ↔ s.fill others = "" := by
  induction s with
  | nil => rfl
  | cons piece rest ih =>
    rw [Skeleton.fill, Skeleton.fill, String.append_eq_empty_iff, String.append_eq_empty_iff, ih]
    cases piece with
    | literal text => rfl
    | hole name _ => rw [Piece.fill, Piece.fill, h.lookup_eq_empty_iff]

end Alike

/-! ## Going alike -/

section

variable {ε α β γ δ : Type} {given : Arguments}

/-- For all arguments that look like the given ones, the answer is the same failure, or a
value that belongs to the same one. -/
def Uniform (given : Arguments) (belongs : Arguments → α → β → Prop)
    (answer : Arguments → Except ε β) : Prop :=
  (∃ e, ∀ others, Alike given others → answer others = .error e) ∨
    ∃ a, ∀ others, Alike given others → ∃ b, answer others = .ok b ∧ belongs others a b

/-- For all arguments that look like the given ones, the answer is the same failure, or is
made of the same value. -/
abbrev UniformIn (given : Arguments) (make : Arguments → α → β)
    (answer : Arguments → Except ε β) : Prop :=
  Uniform given (fun others a b => b = make others a) answer

/-- For all arguments that look like the given ones, the answer is the same failure, or a
text with the same skeleton. -/
abbrev HasSkeleton (names : List String) (given : Arguments)
    (answer : Arguments → Except ε String) : Prop :=
  UniformIn given (fun others (s : Skeleton names) => s.fill others) answer

namespace Uniform

variable {belongs : Arguments → α → β → Prop} {belongs' : Arguments → γ → δ → Prop}

/-- The same failure for all arguments. -/
theorem error {answer : Arguments → Except ε β} (e : ε)
    (h : ∀ others, Alike given others → answer others = .error e) :
    Uniform given belongs answer :=
  .inl ⟨e, h⟩

/-- Values that belong to the same one. -/
theorem ok {answer : Arguments → Except ε β} (a : α)
    (h : ∀ others, Alike given others → ∃ b, answer others = .ok b ∧ belongs others a b) :
    Uniform given belongs answer :=
  .inr ⟨a, h⟩

/-- Values that are made of the same one. -/
theorem make {make : Arguments → α → β} {answer : Arguments → Except ε β} (a : α)
    (h : ∀ others, Alike given others → answer others = .ok (make others a)) :
    UniformIn given make answer :=
  .ok a fun others halike => ⟨_, h others halike, rfl⟩

theorem congr {answer answer' : Arguments → Except ε β} (h' : Uniform given belongs answer')
    (h : ∀ others, Alike given others → answer others = answer' others) :
    Uniform given belongs answer := by
  rcases h' with ⟨e, he⟩ | ⟨a, ha⟩
  · exact .error e fun others halike => (h others halike).trans (he others halike)
  · refine .ok a fun others halike => ?_
    rw [h others halike]
    exact ha others halike

/-- A value may belong to more than one. -/
theorem imp {belongs' : Arguments → γ → β → Prop} {answer : Arguments → Except ε β}
    (h : Uniform given belongs answer) (change : α → γ)
    (h' : ∀ others a b, Alike given others → belongs others a b →
      belongs' others (change a) b) : Uniform given belongs' answer := by
  rcases h with ⟨e, he⟩ | ⟨a, ha⟩
  · exact .error e he
  · refine .ok (change a) fun others halike => ?_
    obtain ⟨b, hb, hbelongs⟩ := ha others halike
    exact ⟨b, hb, h' others a b halike hbelongs⟩

/-- A failure may be told in other words. -/
theorem mapError {ε' : Type} {answer : Arguments → Except ε β}
    (h : Uniform given belongs answer) (word : ε → ε') :
    Uniform given belongs fun others => (answer others).mapError word := by
  rcases h with ⟨e, he⟩ | ⟨a, ha⟩
  · refine .error (word e) fun others halike => ?_
    rw [he others halike]
    rfl
  · refine .ok a fun others halike => ?_
    obtain ⟨b, hb, hbelongs⟩ := ha others halike
    exact ⟨b, by rw [hb]; rfl, hbelongs⟩

/-- Steps that go alike, one after the other.  The second starts from what the first came
to. -/
theorem bind {first : Arguments → Except ε β} {next : Arguments → β → Except ε δ}
    (h : Uniform given belongs first)
    (h' : ∀ a (value : Arguments → β),
      (∀ others, Alike given others →
        first others = .ok (value others) ∧ belongs others a (value others)) →
      Uniform given belongs' fun others => next others (value others)) :
    Uniform given belongs' fun others => first others >>= next others := by
  rcases h with ⟨e, he⟩ | ⟨a, ha⟩
  · refine .error e fun others halike => ?_
    rw [he others halike]
    rfl
  · have : Nonempty β := ⟨(ha given (.refl given)).choose⟩
    choose! value hvalue using ha
    refine (h' a value hvalue).congr fun others halike => ?_
    rw [(hvalue others halike).1]
    rfl

/-- A step that goes alike, and one that does so with what the first came to. -/
theorem bind_make {make : Arguments → α → β} {first : Arguments → Except ε β}
    {next : Arguments → β → Except ε δ} (h : UniformIn given make first)
    (h' : ∀ a, (∀ others, Alike given others → first others = .ok (make others a)) →
      Uniform given belongs' fun others => next others (make others a)) :
    Uniform given belongs' fun others => first others >>= next others := by
  refine h.bind fun a value hvalue => ?_
  have hmake (others : Arguments) (halike : Alike given others) :
      value others = make others a := (hvalue others halike).2
  refine (h' a fun others halike => ?_).congr fun others halike => ?_
  · rw [(hvalue others halike).1, hmake others halike]
  · rw [hmake others halike]

end Uniform

end

/-! ## Templates -/

/-- Looking up comes before and after a change to all values. -/
theorem lookup_map_snd {α β : Type} (change : α → β) (entries : List (String × α))
    (name : String) :
    (entries.map fun entry => (entry.1, change entry.2)).lookup name =
      (entries.lookup name).map change := by
  induction entries with
  | nil => rfl
  | cons entry rest ih =>
    rw [List.map_cons, List.lookup_cons, List.lookup_cons]
    cases name == entry.1 with
    | true => rfl
    | false => exact ih

/-- Values of parameters, each with the skeleton of its text if it has one. -/
abbrev Sketch (names : List String) := List (String × Option (Skeleton names))

/-- The values that a sketch makes of arguments. -/
def Sketch.fill {names : List String} (arguments : Arguments) (s : Sketch names) :
    Template.Values :=
  s.map fun entry => (entry.1, entry.2.map (Skeleton.fill arguments))

/-- A sketch has the values of its entries. -/
theorem Sketch.find?_fill {names : List String} (arguments : Arguments) (s : Sketch names)
    (name : String) :
    (s.fill arguments).find? name =
      (s.lookup name).map (Option.map (Skeleton.fill arguments)) :=
  lookup_map_snd (Option.map (Skeleton.fill arguments)) s name

namespace Template

variable {given : Arguments} {names : List String}

/-- What is known of a parameter goes alike. -/
theorem uniform_get (s : Sketch names) (name : String) :
    HasSkeleton names given fun others => (s.fill others).get name := by
  cases hlookup : s.lookup name with
  | none =>
    refine .error (.unbound name) fun others _ => ?_
    rw [Values.get, Sketch.find?_fill, hlookup]
    rfl
  | some value =>
    refine .make (value.getD []) fun others _ => ?_
    rw [Values.get, Sketch.find?_fill, hlookup]
    cases value <;> rfl

/-- The texts of a template without pipes have one skeleton. -/
theorem uniform_renderIn (registry : Registry) (s : Sketch names) {t : Template}
    (ht : t.pipeNames = []) (dot : Skeleton names) :
    HasSkeleton names given fun others =>
      renderIn registry (s.fill others) (dot.fill others) t := by
  induction t generalizing dot with
  | done => exact .make [] fun _ _ => rfl
  | text value rest ih =>
    refine .bind_make (ih ht dot) fun after _ => ?_
    exact .make (.literal value :: after) fun _ _ => rfl
  | hole parameter pipes rest ih =>
    obtain ⟨rfl, hrest⟩ := List.append_eq_nil_iff.1 ht
    have hsubject : HasSkeleton names given fun others =>
        (s.fill others).subject (dot.fill others) parameter := by
      cases parameter with
      | none => exact .make dot fun _ _ => rfl
      | some name => exact uniform_get s name
    have hpipes (value : Skeleton names) : HasSkeleton names given fun others =>
        applyPipes registry [] (value.fill others) := .make value fun _ _ => rfl
    refine .bind_make hsubject fun value _ => ?_
    refine .bind_make (hpipes value) fun value _ => ?_
    refine .bind_make (ih hrest dot) fun after _ => ?_
    exact .make (value ++ after) fun others _ =>
      congrArg Except.ok (Skeleton.fill_append others value after).symm
  | block name body rest ihBody ihRest =>
    obtain ⟨hbody, hrest⟩ := List.append_eq_nil_iff.1 ht
    refine .bind_make (uniform_get s name) fun value _ => ?_
    have hshown : HasSkeleton names given fun others =>
        if (value.fill others).isEmpty then .ok ""
        else renderIn registry (s.fill others) (value.fill others) body := by
      -- Whether the block stands is the same for all arguments that look alike.
      by_cases hvalue : value.fill given = ""
      · refine .make [] fun others halike => ?_
        rw [if_pos (String.isEmpty_iff.2 ((halike.fill_eq_empty_iff value).1 hvalue))]
        rfl
      · refine (ihBody hbody value).congr fun others halike => ?_
        rw [if_neg (mt String.isEmpty_iff.1 (mt (halike.fill_eq_empty_iff value).2 hvalue))]
    refine .bind_make hshown fun shown _ => ?_
    refine .bind_make (ihRest hrest dot) fun after _ => ?_
    exact .make (shown ++ after) fun others _ =>
      congrArg Except.ok (Skeleton.fill_append others shown after).symm

end Template

end Tweaks
