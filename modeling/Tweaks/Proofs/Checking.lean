import Tweaks.Proofs.Marking
import Tweaks.Proofs.Opening

/-!
# Checking one file after the other

Every file that is reached gets one verdict, and the first failure decides how the command
ends.  What is told as wrong with a file does not keep the next ones from being checked; but
where work on a file breaks off, the command ends there, without a verdict on that file and
on all behind it.

Main results:

- `unmarked_goodLine`, `unmarked_badLine`: a verdict begins with its mark.
- `unmarked_eq_error_iff`: the verdicts that cannot be printed.
- `validate_cons`: what is said about a file stands before what is said about the others.
- `good_iff_of_finding`, `fails_of_finding`: what a verdict says about a file, and the status
  for it.
- `finding_eq_error_iff`: the files on which work breaks off.
- `validate_up_to_breakdown`: verdicts in order, up to the first file on which work breaks
  off; `odd_octets_break_off` is such a file.
-/

namespace Tweaks.Command

open Compilation Console.Markup

variable {w : Workspace} {path : Path}

/-! ## Verdicts -/

/-- What is said behind the mark of a collection that is fine. -/
def goodRest (path : Path) (v : Verdict) : String :=
  path.text ++ " [dim](" ++ v.collection.os.name ++ ", " ++
    toString v.collection.scripts.length ++ " scripts, " ++ toString v.emitted ++ " emitted, " ++
    toString v.revertible ++ " revertible)[/dim]"

/-- The mark of a collection that is fine, before any text. -/
theorem plain_good (text : String) : plain ("[green]OK[/green] " ++ text).toList =
    (plain (" " ++ text).toList).map ("OK".toList ++ ·) := by
  have hmark : "[green]OK[/green] ".toList =
      tagged "green".toList "OK".toList ++ " ".toList := by decide
  rw [String.toList_append, hmark, List.append_assoc, ← String.toList_append]
  have h := @plain_tagged 'g' "reen".toList "OK".toList (by decide) (by decide) (by simp)
    (by simp) (by decide +kernel) (by decide)
  exact h (" " ++ text).toList

/-- The mark of a collection with something wrong, before any text. -/
theorem plain_bad (text : String) : plain ("[red]FAIL[/red] " ++ text).toList =
    (plain (" " ++ text).toList).map ("FAIL".toList ++ ·) := by
  have hmark : "[red]FAIL[/red] ".toList =
      tagged "red".toList "FAIL".toList ++ " ".toList := by decide
  rw [String.toList_append, hmark, List.append_assoc, ← String.toList_append]
  have h := @plain_tagged 'r' "ed".toList "FAIL".toList (by decide) (by decide) (by simp)
    (by simp) (by decide) (by decide)
  exact h (" " ++ text).toList

/-- Where the markup of a text is that of another one behind a mark, and the mark can be written
out, the text is printed exactly if the other one is. -/
theorem unmarked_of_plain {text rest : String} {mark : List Char}
    (hplain : plain text.toList = (plain rest.toList).map (mark ++ ·))
    (hmark : Text.isWritable mark = true) :
    Report.unmarked text = (Report.unmarked rest).map (mark ++ ·) := by
  rw [Report.unmarked, Report.unmarked, hplain]
  cases plain rest.toList with
  | error fault => rfl
  | ok behind =>
    have hboth : Text.isWritable (mark ++ behind) = Text.isWritable behind := by
      rw [Text.isWritable] at hmark
      rw [Text.isWritable, Text.isWritable, List.all_append, hmark, Bool.true_and]
    dsimp only [Except.map]
    rw [hboth]
    split <;> rfl

/-- The verdict on a collection that is fine begins with its mark. -/
theorem unmarked_goodLine (path : Path) (v : Verdict) : Report.unmarked (goodLine path v) =
    (Report.unmarked (" " ++ goodRest path v)).map ("OK".toList ++ ·) := by
  have hline : goodLine path v = "[green]OK[/green] " ++ goodRest path v := by
    unfold goodLine goodRest
    simp only [String.append_assoc]
  rw [hline]
  exact unmarked_of_plain (plain_good _) (by decide)

/-- The verdict on a collection with something wrong begins with its mark. -/
theorem unmarked_badLine (path : Path) : Report.unmarked (badLine path) =
    (Report.unmarked (" " ++ path.text)).map ("FAIL".toList ++ ·) :=
  unmarked_of_plain (plain_bad path.text) (by decide)

/-- What is said about one file. -/
structure Finding where
  /-- Whether the collection is fine. -/
  good : Bool
  /-- What stands behind the mark. -/
  rest : List Char
  /-- What is told as wrong. -/
  wrong : String
  status : Int

namespace Finding

/-- The mark that a verdict begins with. -/
def mark (f : Finding) : String :=
  if f.good then "OK" else "FAIL"

/-- The verdict as it is printed. -/
def line (f : Finding) : String :=
  Console.print (String.ofList (f.mark.toList ++ f.rest))

/-- What is said about a file, before a report on others.  The first failure decides how
the command ends, unless work breaks off. -/
def ahead (f : Finding) (rest : Report) : Report :=
  { rest.after f.line f.wrong with
    ending := match rest.ending with
      | .status code => .status (if f.good then code else f.status)
      | .breakdown b => .breakdown b }

end Finding

/-- What is said about a file, unless work on it breaks off. -/
def finding (w : Workspace) (path : Path) : Except Breakdown Finding :=
  match check w path with
  | .ok verdict =>
    (Report.unmarked (" " ++ goodRest path verdict)).map fun rest => ⟨true, rest, "", 0⟩
  | .error (.breakdown b) => .error b
  | .error obstacle =>
    (Report.unmarked (" " ++ path.text)).map fun rest =>
      ⟨false, rest, (Report.ofObstacle obstacle).err,
        (Report.ofObstacle obstacle).status?.getD 0⟩

/-- What is said about a file that is fine, before a report on others. -/
theorem printing_good (rest : Report) (path : Path) (v : Verdict) :
    rest.printing (goodLine path v) =
      match Report.unmarked (" " ++ goodRest path v) with
      | .ok text => Finding.ahead ⟨true, text, "", 0⟩ rest
      | .error b => .brokenOff b := by
  rw [Report.printing, unmarked_goodLine]
  cases Report.unmarked (" " ++ goodRest path v) with
  | error b => rfl
  | ok text =>
    dsimp only [Except.map, Finding.ahead, Finding.line, Finding.mark, ↓reduceIte]
    cases hending : rest.ending <;> simp [Report.after, hending]

/-- An obstacle on which work does not break off is told, with a status. -/
theorem exists_failed_of_obstacle {o : Obstacle} (hfails : ∀ b, o ≠ .breakdown b) :
    ∃ message code, Report.ofObstacle o = .failed message code := by
  cases o with
  | problem p => exact ⟨_, _, rfl⟩
  | complaint c => exact ⟨_, _, rfl⟩
  | breakdown b => exact absurd rfl (hfails b)

/-- What is said about a file that fails, before a report on others. -/
theorem printing_bad {o : Obstacle} (hfails : ∀ b, o ≠ .breakdown b) (rest : Report)
    (path : Path) :
    (Report.before (.ofObstacle o) rest).printing (badLine path) =
      match Report.unmarked (" " ++ path.text) with
      | .ok text => Finding.ahead
          ⟨false, text, (Report.ofObstacle o).err, (Report.ofObstacle o).status?.getD 0⟩ rest
      | .error b => .brokenOff b := by
  rw [Report.printing, unmarked_badLine]
  cases Report.unmarked (" " ++ path.text) with
  | error b => rfl
  | ok text =>
    obtain ⟨message, code, hfailed⟩ := exists_failed_of_obstacle hfails
    rw [hfailed]
    cases hending : rest.ending <;>
      simp [Except.map, Finding.ahead, Finding.line, Finding.mark, Report.before, Report.after,
        Report.failed, Report.status?, hending]

/-- A file is checked before the others, and what is said about it stands before what is
said about them; where work on it breaks off, nothing more is said. -/
theorem validate_cons (w : Workspace) (path : Path) (rest : List Path) :
    validate w (path :: rest) =
      match finding w path with
      | .ok f => f.ahead (validate w rest)
      | .error b => .brokenOff b := by
  rw [validate, finding]
  cases check w path with
  | ok verdict =>
    dsimp only
    rw [printing_good]
    cases Report.unmarked (" " ++ goodRest path verdict) <;> rfl
  | error o =>
    cases o with
    | breakdown b => rfl
    | problem p =>
      dsimp only
      rw [printing_bad (by simp)]
      cases Report.unmarked (" " ++ path.text) <;> rfl
    | complaint c =>
      dsimp only
      rw [printing_bad (by simp)]
      cases Report.unmarked (" " ++ path.text) <;> rfl

/-! ## What a verdict says -/

/-- Why a file is not fine, with the status for it. -/
inductive Fails (w : Workspace) (path : Path) : Int → Prop
  /-- It cannot be read, or its text is not well formed. -/
  | load {origin reason : String}
      (loads : Opened.Loads w path (.error (.problem (.load origin reason)))) : Fails w path 2
  /-- Its document is no collection. -/
  | document {location : Location} {flaw : Flaw}
      (loads : Opened.Loads w path (.error (.problem (.document location flaw)))) :
      Fails w path 3
  /-- Not all of its scripts compile. -/
  | compile {c : Collection} {e : CompileError} (loads : Opened.Loads w path (.ok c))
      (fails : compile c Pipe.standard (.everything .forward) = .error e) : Fails w path 1

/-- A file with something wrong in it fails, and the problem has the status for it. -/
theorem fails_of_check {p : Problem} (h : check w path = .error (.problem p)) :
    Fails w path p.exitCode := by
  have hchecks := h ▸ checks_check w path
  cases hchecks with
  | stopped load =>
    have hloads := Opened.load_eq_iff_loads.1 load
    rcases Opened.obstacle_of_load load with
      ⟨origin, reason, hp⟩ | ⟨location, flaw, hp⟩ | ⟨b, hp⟩
    · cases hp
      exact .load hloads
    · cases hp
      exact .document hloads
    · cases hp
  | @failing c script cause load mem fails =>
    cases hcompile : compile c Pipe.standard (.everything .forward) with
    | error e => exact .compile (Opened.load_eq_iff_loads.1 load) hcompile
    | ok forward =>
      have hbuildable := (exists_compile_everything_iff .forward).1 ⟨forward, hcompile⟩
      obtain ⟨code, hcode⟩ := hbuildable script mem
      cases hcode.symm.trans fails

/-- Checking is stopped by a problem or breaks off. -/
theorem obstacle_of_check {o : Obstacle} (h : check w path = .error o) :
    (∃ p, o = .problem p) ∨ ∃ b, o = .breakdown b := by
  have hchecks := h ▸ checks_check w path
  cases hchecks with
  | stopped load =>
    rcases Opened.obstacle_of_load load with ⟨_, _, rfl⟩ | ⟨_, _, rfl⟩ | ⟨b, rfl⟩
    · exact .inl ⟨_, rfl⟩
    · exact .inl ⟨_, rfl⟩
    · exact .inr ⟨b, rfl⟩
  | failing => exact .inl ⟨_, rfl⟩

/-- A file is called fine exactly where it holds a collection in which everything compiles,
in both directions. -/
theorem good_iff_of_finding {f : Finding} (h : finding w path = .ok f) :
    f.good = true ↔ ∃ c, Opened.load w path = .ok c ∧
      (∃ forward, compile c Pipe.standard (.everything .forward) = .ok forward) ∧
      ∃ reverts, compile c Pipe.standard (.everything .revert) = .ok reverts := by
  rw [← exists_check_eq_ok_iff]
  rw [finding] at h
  cases hcheck : check w path with
  | ok verdict =>
    rw [hcheck] at h
    obtain ⟨rest, -, rfl⟩ := Stepwise.exists_of_map_eq_ok h
    simp
  | error o =>
    rw [hcheck] at h
    rcases obstacle_of_check hcheck with ⟨p, rfl⟩ | ⟨b, rfl⟩
    · obtain ⟨rest, -, rfl⟩ := Stepwise.exists_of_map_eq_ok h
      simp
    · cases h

/-- Of a file that is not fine, the status is that for what is wrong with it. -/
theorem fails_of_finding {f : Finding} (h : finding w path = .ok f) (hbad : f.good = false) :
    Fails w path f.status := by
  rw [finding] at h
  cases hcheck : check w path with
  | ok verdict =>
    rw [hcheck] at h
    obtain ⟨rest, -, rfl⟩ := Stepwise.exists_of_map_eq_ok h
    cases hbad
  | error o =>
    rw [hcheck] at h
    rcases obstacle_of_check hcheck with ⟨p, rfl⟩ | ⟨b, rfl⟩
    · obtain ⟨rest, -, rfl⟩ := Stepwise.exists_of_map_eq_ok h
      exact fails_of_check hcheck
    · cases h

/-- Why a text with markup cannot be printed. -/
inductive Unprintable (text : String) : Breakdown → Prop
  /-- Its markup cannot be read. -/
  | markup {fault : Fault} (unreadable : plain text.toList = .error fault) :
      Unprintable text (.markup fault)
  /-- One of the characters that it shows stands for a half of a pair. -/
  | half {shown : List Char} {c : Char} (readable : plain text.toList = .ok shown)
      (mem : c ∈ shown) (stands : (Text.halfNumber? c).isSome) :
      Unprintable text .notEncodable

/-- Texts with markup are not printed for these reasons only. -/
theorem unmarked_eq_error_iff {text : String} {b : Breakdown} :
    Report.unmarked text = .error b ↔ Unprintable text b := by
  constructor
  · intro h
    rw [Report.unmarked] at h
    cases hplain : plain text.toList with
    | error fault =>
      rw [hplain] at h
      cases h
      exact .markup hplain
    | ok shown =>
      rw [hplain] at h
      dsimp only at h
      split at h
      · cases h
      · next hhalf =>
        cases h
        obtain ⟨c, hc, hstands⟩ : ∃ c ∈ shown, (Text.halfNumber? c).isSome := by
          simpa [Text.isWritable, Option.isSome_iff_ne_none] using hhalf
        exact .half hplain hc hstands
  · intro h
    rw [Report.unmarked]
    cases h with
    | markup unreadable => rw [unreadable]
    | half readable mem stands =>
      have hhalf : ¬Text.isWritable _ = true := fun hall => by
        have hnone := List.all_eq_true.1 hall _ mem
        rw [Option.isNone_iff_eq_none] at hnone
        rw [hnone] at stands
        cases stands
      rw [readable]
      exact if_neg hhalf

/-- Why work on a file breaks off: on opening it, or on printing the verdict. -/
inductive Breaks (w : Workspace) (path : Path) : Breakdown → Prop
  | opening {b : Breakdown} (loads : Opened.Loads w path (.error (.breakdown b))) :
      Breaks w path b
  | good {v : Verdict} {b : Breakdown} (checked : check w path = .ok v)
      (line : Unprintable (goodLine path v) b) : Breaks w path b
  | bad {p : Problem} {b : Breakdown} (checked : check w path = .error (.problem p))
      (line : Unprintable (badLine path) b) : Breaks w path b

/-- Checking breaks off only where opening does. -/
theorem check_eq_breakdown_iff {b : Breakdown} :
    check w path = .error (.breakdown b) ↔ Opened.load w path = .error (.breakdown b) := by
  constructor
  · intro h
    have hchecks := h ▸ checks_check w path
    cases hchecks with
    | stopped load => exact load
  · intro h
    rw [check, h]
    rfl

/-- Work on a file breaks off for these reasons, and for no other. -/
theorem finding_eq_error_iff {b : Breakdown} :
    finding w path = .error b ↔ Breaks w path b := by
  constructor
  · intro h
    rw [finding] at h
    cases hcheck : check w path with
    | ok verdict =>
      rw [hcheck] at h
      refine .good hcheck (unmarked_eq_error_iff.1 ?_)
      rw [unmarked_goodLine, Stepwise.eq_error_of_map_eq_error h]
      rfl
    | error o =>
      rw [hcheck] at h
      rcases obstacle_of_check hcheck with ⟨p, rfl⟩ | ⟨b', rfl⟩
      · refine .bad hcheck (unmarked_eq_error_iff.1 ?_)
        rw [unmarked_badLine, Stepwise.eq_error_of_map_eq_error h]
        rfl
      · cases h
        exact .opening (Opened.load_eq_iff_loads.1 (check_eq_breakdown_iff.1 hcheck))
  · intro h
    rw [finding]
    cases h with
    | opening loads =>
      rw [check_eq_breakdown_iff.2 (Opened.load_eq_of_loads loads)]
    | good checked line =>
      have hline := unmarked_eq_error_iff.2 line
      rw [unmarked_goodLine] at hline
      rw [checked]
      dsimp only
      rw [Stepwise.eq_error_of_map_eq_error hline]
      rfl
    | bad checked line =>
      have hline := unmarked_eq_error_iff.2 line
      rw [unmarked_badLine] at hline
      rw [checked]
      dsimp only
      rw [Stepwise.eq_error_of_map_eq_error hline]
      rfl

/-! ## Files one after the other -/

/-- All that is said about files, and how the command ends. -/
def verdicts (findings : List Finding) (ending : Ending) : Report :=
  ⟨String.join (findings.map Finding.line), String.join (findings.map Finding.wrong), none, [],
    ending⟩

/-- The status of the first file that is not fine, if there is one. -/
def firstFailure : List Finding → Int
  | [] => 0
  | f :: rest => if f.good then firstFailure rest else f.status

/-- What is said about a file goes before what is said about others. -/
theorem ahead_verdicts (f : Finding) (findings : List Finding) (ending : Ending) :
    f.ahead (verdicts findings ending) = verdicts (f :: findings)
      (match ending with
        | .status code => .status (if f.good then code else f.status)
        | .breakdown b => .breakdown b) := by
  simp [Finding.ahead, verdicts, Report.after, String.join_cons]

/-- Files are checked in order, up to the end or to the first on which work breaks off. -/
theorem exists_reached (w : Workspace) (paths : List Path) :
    ∃ reached : List (Path × Finding), (∀ k ∈ reached, finding w k.1 = .ok k.2) ∧
      (paths = reached.map Prod.fst ∧
          validate w paths = verdicts (reached.map Prod.snd)
            (.status (firstFailure (reached.map Prod.snd))) ∨
        ∃ path rest b, paths = reached.map Prod.fst ++ path :: rest ∧
          finding w path = .error b ∧
          validate w paths = verdicts (reached.map Prod.snd) (.breakdown b)) := by
  induction paths with
  | nil => exact ⟨[], by simp, .inl ⟨rfl, rfl⟩⟩
  | cons path rest ih =>
    rw [validate_cons]
    cases hfinding : finding w path with
    | error b => exact ⟨[], by simp, .inr ⟨path, rest, b, rfl, hfinding, rfl⟩⟩
    | ok f =>
      obtain ⟨reached, hreached, hrest⟩ := ih
      refine ⟨(path, f) :: reached, ?_, ?_⟩
      · intro k hk
        rcases List.mem_cons.1 hk with rfl | hk
        · exact hfinding
        · exact hreached k hk
      · rcases hrest with ⟨hpaths, hreport⟩ | ⟨broken, others, b, hpaths, hbroken, hreport⟩
        · refine .inl ⟨by rw [hpaths]; rfl, ?_⟩
          dsimp only
          rw [hreport, ahead_verdicts]
          rfl
        · refine .inr ⟨broken, others, b, by rw [hpaths]; rfl, hbroken, ?_⟩
          dsimp only
          rw [hreport, ahead_verdicts]
          rfl

/-- Files are checked in the given order.  Each that is reached gets one verdict, behind a
mark that tells whether it holds a collection in which everything compiles, in both
directions; the first that is not fine decides the status.  Every file is reached exactly
where work breaks off on none of them, and for which reasons it does is known. -/
theorem validate_up_to_breakdown (w : Workspace) (paths : List Path) :
    (∃ reached : List (Path × Finding), (∀ k ∈ reached, finding w k.1 = .ok k.2) ∧
      (paths = reached.map Prod.fst ∧
          validate w paths = verdicts (reached.map Prod.snd)
            (.status (firstFailure (reached.map Prod.snd))) ∨
        ∃ path rest b, paths = reached.map Prod.fst ++ path :: rest ∧
          finding w path = .error b ∧
          validate w paths = verdicts (reached.map Prod.snd) (.breakdown b))) ∧
    ((∃ code, (validate w paths).ending = .status code) ↔
      ∀ path ∈ paths, ∀ b, ¬Breaks w path b) ∧
    (∀ path f, finding w path = .ok f →
      (f.good = true ↔ ∃ c, Opened.load w path = .ok c ∧
        (∃ forward, compile c Pipe.standard (.everything .forward) = .ok forward) ∧
        ∃ reverts, compile c Pipe.standard (.everything .revert) = .ok reverts) ∧
      (f.good = false → Fails w path f.status)) ∧
    ∀ path b, finding w path = .error b ↔ Breaks w path b := by
  refine ⟨exists_reached w paths, ?_, ?_, fun path b => finding_eq_error_iff⟩
  · obtain ⟨reached, hreached, hreport⟩ := exists_reached w paths
    rcases hreport with ⟨rfl, hreport⟩ | ⟨path, rest, b, rfl, hbroken, hreport⟩
    · refine iff_of_true ⟨_, by rw [hreport]; rfl⟩ fun path hpath b hbreaks => ?_
      obtain ⟨k, hk, rfl⟩ := List.mem_map.1 hpath
      cases (hreached k hk).symm.trans (finding_eq_error_iff.2 hbreaks)
    · refine iff_of_false ?_ fun hnone => ?_
      · rintro ⟨code, hcode⟩
        rw [hreport] at hcode
        cases hcode
      · exact hnone path (by simp) b (finding_eq_error_iff.1 hbroken)
  · intro path f h
    exact ⟨good_iff_of_finding h, fails_of_finding h⟩

/-- A folder with one file, whose only octet spells no text. -/
def oddWorkspace : Workspace where
  files := ⟨[(["home", "odd.yaml"], .file [0xff])]⟩
  folder := ["home"]
  environment := []
  system := "linux"
  now := 0
  answers := []
  course := fun _ => .ended 0
  deepest := 100

/-- The odd file has no verdict, and keeps the path behind it from being checked, which gets
its verdict when it is checked alone. -/
theorem odd_octets_break_off :
    validate oddWorkspace [.ofText "odd.yaml", .ofText "absent.yaml"] =
      ⟨"", "", none, [], .breakdown .notUtf8⟩ ∧
    validate oddWorkspace [.ofText "absent.yaml"] =
      ⟨"FAIL absent.yaml\n", "Error: LoadError: absent.yaml\n  Cannot load absent.yaml: " ++
        "No such file or directory\n", none, [], .status 2⟩ := by
  decide +kernel

end Tweaks.Command
