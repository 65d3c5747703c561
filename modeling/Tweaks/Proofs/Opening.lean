import Tweaks.Command.Validate
import Tweaks.Proofs.Buildable

/-!
# What opening and checking a file come to

A file is read, its octets are read as a text, the text as a document, and the document as
a collection; the collection is checked by compiling everything in both directions.  Each
of these steps may fail, some in a way that is told and some in a way that breaks all work
off.  Compiling never breaks off, since the collection is a decoded one.

Main results:

- `fileText?_of_ascii`: a file that holds a text of ASCII.
- `Opened.load_eq_iff_loads`: what opening a file comes to, by what the file holds.
- `Opened.obstacle_of_load`: what may keep a file from being opened.
- `Opened.loaded_of_load`: a collection that is opened is a decoded one.
- `Command.checks_check`: what checking a file comes to.
- `Command.exists_check_eq_ok_iff`: a file is fine exactly where it holds a collection in
  which everything compiles, in both directions.
-/

namespace Tweaks

open Compilation

variable {w : Workspace} {path : Path}

/-! ## Texts in files -/

/-- Characters of ASCII are spelled by their numbers. -/
theorem Text.decodeOctets?_of_ascii {s : List Char} (h : ∀ c ∈ s, c.toNat < 0x80) :
    decodeOctets? (s.map Char.toNat) = some s := by
  induction s with
  | nil => rfl
  | cons c s ih =>
    rw [List.map_cons, decodeOctets?_ascii (h c List.mem_cons_self),
      ih fun d hd => h d (List.mem_cons_of_mem c hd)]
    simp

/-- Without carriage returns the breaks stay as they are. -/
theorem Text.unifyBreaks_of_no_return {s : List Char} (h : '\r' ∉ s) : unifyBreaks s = s := by
  fun_induction unifyBreaks s with
  | case1 => rfl
  | case2 s ih => simp at h
  | case3 c s _ ih =>
    rw [List.mem_cons, not_or] at h
    rw [if_neg (Ne.symm h.1), ih h.2]

/-- A file with the numbers of a text's characters holds that text, where all of them are of
ASCII and none is a carriage return. -/
theorem fileText?_of_ascii {text : String}
    (h : ∀ c ∈ text.toList, c.toNat < 0x80 ∧ c ≠ '\r') :
    fileText? (text.toList.map fun c => UInt8.ofNat c.toNat) = some text := by
  have hoctets : (text.toList.map fun c => UInt8.ofNat c.toNat).map UInt8.toNat =
      text.toList.map Char.toNat := by
    rw [List.map_map]
    refine List.map_congr_left fun c hc => ?_
    have hlt : c.toNat < UInt8.size := Nat.lt_trans (h c hc).1 (by decide)
    exact UInt8.toNat_ofNat_of_lt' hlt
  have hreturn : '\r' ∉ text.toList := fun hc => (h _ hc).2 rfl
  rw [fileText?, hoctets, Text.decodeOctets?_of_ascii fun c hc => (h c hc).1, Option.map_some,
    Text.unifyBreaks_of_no_return hreturn, String.ofList_toList]

/-! ## Opening -/

/-- A path leads to a file with that text. -/
def Workspace.Holds (w : Workspace) (path : Path) (text : String) : Prop :=
  ∃ octets, w.read path = .ok octets ∧ fileText? octets = some text

namespace Opened

/-- What opening a file comes to. -/
inductive Loads (w : Workspace) (path : Path) : Except Obstacle Collection → Prop
  /-- There is no file that can be read. -/
  | unreadable {e : FileError} (read : w.read path = .error e)
      (usable : e ≠ .unusableName) (encodable : e ≠ .notEncodable) :
      Loads w path (.error (.problem (.load path.text e.message)))
  /-- The path is none that can be followed. -/
  | unusable {e : FileError} (read : w.read path = .error e)
      (fault : e = .unusableName ∨ e = .notEncodable) :
      Loads w path (.error (.breakdown (.file e)))
  /-- The octets of the file are not the spelling of a text. -/
  | notUtf8 {octets : List UInt8} (read : w.read path = .ok octets)
      (spelled : fileText? octets = none) :
      Loads w path (.error (.breakdown .notUtf8))
  /-- The text in the file is not well formed. -/
  | malformed {text : String} (holds : w.Holds path text)
      (parsed : Yaml.parse w.deepest text = .error .malformed) :
      Loads w path (.error (.problem (.load path.text "invalid YAML")))
  /-- The text in the file has a value that does not exist. -/
  | value {text : String} {fault : Yaml.Fault} (holds : w.Holds path text)
      (parsed : Yaml.parse w.deepest text = .error fault) (formed : fault ≠ .malformed) :
      Loads w path (.error (.breakdown (.value fault)))
  /-- The document in the file is no collection, or cannot be gone through. -/
  | rejected {text : String} {d : Document} {rejection : Rejection} (holds : w.Holds path text)
      (parsed : Yaml.parse w.deepest text = .ok d)
      (decoded : Collection.ofDocument d = .error rejection) :
      Loads w path (.error (.ofRejection rejection))
  /-- The document in the file is a collection. -/
  | loaded {text : String} {d : Document} {c : Collection} (holds : w.Holds path text)
      (parsed : Yaml.parse w.deepest text = .ok d) (decoded : Collection.ofDocument d = .ok c) :
      Loads w path (.ok c)

/-- Opening a file comes to what the file holds. -/
theorem loads_load (w : Workspace) (path : Path) : Loads w path (load w path) := by
  rw [load]
  split
  · next hread => exact .unusable hread (.inl rfl)
  · next hread => exact .unusable hread (.inr rfl)
  · next e husable hencodable hread => exact .unreadable hread husable hencodable
  · next octets hread =>
    cases htext : fileText? octets with
    | none => exact .notUtf8 hread htext
    | some text =>
      have hholds : w.Holds path text := ⟨octets, hread, htext⟩
      dsimp only
      rw [Collection.parse]
      cases hparsed : Yaml.parse w.deepest text with
      | error fault =>
        by_cases hformed : fault = .malformed
        · subst hformed
          exact .malformed hholds hparsed
        · dsimp only
          rw [Obstacle.ofFault]
          · exact .value hholds hparsed hformed
          · exact hformed
      | ok d =>
        dsimp only
        cases hdecoded : Collection.ofDocument d with
        | error rejection => exact .rejected hholds hparsed hdecoded
        | ok c => exact .loaded hholds hparsed hdecoded

/-- Opening a file comes to nothing else. -/
theorem load_eq_of_loads {result : Except Obstacle Collection} (h : Loads w path result) :
    load w path = result := by
  have hparse {text : String} (hholds : w.Holds path text) :
      load w path = Collection.parse w.deepest path.text text := by
    obtain ⟨octets, hread, htext⟩ := hholds
    rw [load, hread]
    dsimp only
    rw [htext]
  cases h with
  | unreadable read usable encodable =>
    rw [load, read]
    split
    · next h => cases h; exact absurd rfl usable
    · next h => cases h; exact absurd rfl encodable
    · next h => cases h; rfl
    · next h => cases h
  | unusable read fault =>
    rw [load, read]
    rcases fault with rfl | rfl <;> rfl
  | notUtf8 read spelled =>
    rw [load, read]
    dsimp only
    rw [spelled]
  | malformed holds parsed =>
    rw [hparse holds, Collection.parse, parsed]
    rfl
  | value holds parsed formed =>
    rw [hparse holds, Collection.parse, parsed]
    dsimp only
    rw [Obstacle.ofFault]
    exact formed
  | rejected holds parsed decoded =>
    rw [hparse holds, Collection.parse, parsed]
    dsimp only
    rw [decoded]
  | loaded holds parsed decoded =>
    rw [hparse holds, Collection.parse, parsed]
    dsimp only
    rw [decoded]

/-- What opening a file comes to is told by what the file holds. -/
theorem load_eq_iff_loads {result : Except Obstacle Collection} :
    load w path = result ↔ Loads w path result := by
  constructor
  · rintro rfl
    exact loads_load w path
  · exact load_eq_of_loads

/-- A collection that is opened is the decoded one of a document in the file. -/
theorem exists_document_of_load {c : Collection} (h : load w path = .ok c) :
    ∃ text d, w.Holds path text ∧ Yaml.parse w.deepest text = .ok d ∧
      Collection.ofDocument d = .ok c := by
  have hloads := h ▸ loads_load w path
  cases hloads with
  | loaded holds parsed decoded => exact ⟨_, _, holds, parsed, decoded⟩

/-- What holds of decoded collections holds of every one that is opened. -/
theorem loaded_of_load {c : Collection} (h : load w path = .ok c) : c.Loaded := by
  obtain ⟨text, d, -, -, hdecoded⟩ := exists_document_of_load h
  exact Decode.loaded_of_ofDocument hdecoded

/-- Opening a file is stopped by one of two kinds of problems, or breaks off. -/
theorem obstacle_of_load {o : Obstacle} (h : load w path = .error o) :
    (∃ origin reason, o = .problem (.load origin reason)) ∨
      (∃ location flaw, o = .problem (.document location flaw)) ∨ ∃ b, o = .breakdown b := by
  have hloads := h ▸ loads_load w path
  cases hloads with
  | unreadable => exact .inl ⟨_, _, rfl⟩
  | malformed => exact .inl ⟨_, _, rfl⟩
  | unusable => exact .inr (.inr ⟨_, rfl⟩)
  | notUtf8 => exact .inr (.inr ⟨_, rfl⟩)
  | value => exact .inr (.inr ⟨_, rfl⟩)
  | @rejected text d rejection holds parsed decoded =>
    cases rejection with
    | flawed location flaw => exact .inr (.inl ⟨_, _, rfl⟩)
    | endless => exact .inr (.inr ⟨_, rfl⟩)
    | tooLong => exact .inr (.inr ⟨_, rfl⟩)

end Opened

/-! ## Checking -/

namespace Command

/-- What checking a file comes to. -/
inductive Checks (w : Workspace) (path : Path) : Except Obstacle Verdict → Prop
  /-- There is no collection to check. -/
  | stopped {o : Obstacle} (load : Opened.load w path = .error o) : Checks w path (.error o)
  /-- A script of the collection has no code. -/
  | failing {c : Collection} {script : Script} {cause : ResolutionError}
      (load : Opened.load w path = .ok c) (mem : script ∈ c.scripts)
      (fails : scriptCode c Pipe.standard script = .error (.error cause)) :
      Checks w path (.error (.problem (.script script.name .forward cause)))
  /-- Everything compiles. -/
  | fine {c : Collection} {forward reverts : List Fragment}
      (load : Opened.load w path = .ok c)
      (applied : compile c Pipe.standard (.everything .forward) = .ok forward)
      (undone : compile c Pipe.standard (.everything .revert) = .ok reverts) :
      Checks w path (.ok ⟨c, forward.length, reverts.length⟩)

/-- Checking a file comes to what opening it and compiling everything come to. -/
theorem checks_check (w : Workspace) (path : Path) : Checks w path (check w path) := by
  rw [check]
  cases hload : Opened.load w path with
  | error o => exact .stopped hload
  | ok c =>
    have hempty : Resolution.Memo.Sound c Pipe.standard [] := Resolution.Memo.sound_nil
    obtain ⟨memo, hsound, happlied⟩ := exists_compileWith hempty (.everything .forward)
    obtain ⟨memo', -, hundone⟩ := exists_compileWith hsound (.everything .revert)
    rw [Stepwise.bind_of_eq_ok rfl, happlied]
    cases hforward : compile c Pipe.standard (.everything .forward) with
    | error e =>
      obtain ⟨script, hscript, cause, hcause, rfl⟩ :=
        exists_cause_of_compile_everything (Opened.loaded_of_load hload) hforward
      exact .failing hload hscript hcause
    | ok forward =>
      -- Undoing cannot fail any more: what compiles in one direction does in the other.
      have hbuildable := (exists_compile_everything_iff .forward).1 ⟨forward, hforward⟩
      obtain ⟨reverts, hreverts⟩ := (exists_compile_everything_iff .revert).2 hbuildable
      dsimp only
      rw [hundone, hreverts]
      exact .fine hload hforward hreverts

/-- A file is fine exactly where it holds a collection in which everything compiles, in both
directions. -/
theorem exists_check_eq_ok_iff : (∃ verdict, check w path = .ok verdict) ↔
    ∃ c, Opened.load w path = .ok c ∧
      (∃ forward, compile c Pipe.standard (.everything .forward) = .ok forward) ∧
      ∃ reverts, compile c Pipe.standard (.everything .revert) = .ok reverts := by
  constructor
  · rintro ⟨verdict, hverdict⟩
    have hchecks := hverdict ▸ checks_check w path
    cases hchecks with
    | fine load applied undone => exact ⟨_, load, ⟨_, applied⟩, ⟨_, undone⟩⟩
  · rintro ⟨c, hload, ⟨forward, hforward⟩, -⟩
    have hchecks := checks_check w path
    cases hcheck : check w path with
    | ok verdict => exact ⟨verdict, rfl⟩
    | error o =>
      rw [hcheck] at hchecks
      cases hchecks with
      | stopped load => cases hload.symm.trans load
      | failing load mem fails =>
        cases hload.symm.trans load
        obtain ⟨code, hcode⟩ := (exists_compile_everything_iff .forward).1 ⟨forward, hforward⟩ _ mem
        cases hcode.symm.trans fails

end Command

end Tweaks
