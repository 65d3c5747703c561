import Mathlib.Data.List.Infix
import Tweaks.Proofs.Executing

/-!
# Working in other folders of a project

Settings are looked for in the working folder and then in those around it, and lie in the
first that has any.  So below a folder with settings it makes no difference where commands
work: the same file is found, the collections lie at the same paths, and the same script is
built.  The one thing that stands in the way is a folder so deep that no file can be looked
for in it: the search breaks off there.

Main results:

- `octetCount_text_ofRoot`, `obstruction?_ofRoot`: how long a path from the root is, and
  where it is too long.
- `exists_nearer`: the folders around a place, up to one of them.
- `not_outOfReach_of_short`: which folders are not too deep.
- `find?_of_reach`, `find?_of_outOfReach`: where settings govern a workspace, they are found,
  unless the search breaks off before.
- `exists_root_of_load`: settings that are found belong to a folder.
- `find_moved`, `build_moved`: what is the same wherever commands work.
- `project_works_from_subfolders`: the settings, the paths and the script from two folders of a
  project.
-/

namespace Tweaks

-- Sums of whole numbers start with the literal zero.
attribute [local instance (5000)] Zero.ofOfNat0

/-- The workspace with another working folder. -/
def Workspace.moved (w : Workspace) (folder : Place) : Workspace :=
  { w with folder := folder }

/-- A path from the root takes an octet for the slash before each of its names, and the octets
of the names. -/
theorem Path.octetCount_text_ofRoot {names : List String} (h : names ≠ []) :
    Files.octetCount (ofRoot names).text =
      (names.map fun name => 1 + Files.octetCount name).sum := by
  have hslash : Files.octetCount "/" = 1 := rfl
  rw [ofRoot, text, Files.octetCount_append, hslash]
  dsimp only
  induction names with
  | nil => exact absurd rfl h
  | cons name rest ih =>
    have hsingle : Text.join "/" [name] = name := by simp [Text.join]
    cases rest with
    | nil => simp [hsingle]
    | cons next others =>
      have hjoin : Text.join "/" (name :: next :: others) =
          name ++ "/" ++ Text.join "/" (next :: others) := by
        have happend := Text.join_append "/" (List.cons_ne_nil name [])
          (List.cons_ne_nil next others)
        rwa [hsingle] at happend
      have hrest := ih (List.cons_ne_nil next others)
      rw [List.map_cons, List.sum_cons, ← hrest, hjoin, Files.octetCount_append,
        Files.octetCount_append, hslash]
      omega

namespace Files

variable {f : Files} {folder folder' : Place} {path : Path}

/-- A path from the root whose names are too long together cannot be followed, even where each
of its characters can be written. -/
theorem obstruction?_ofRoot {names : List String} (hne : names ≠ [])
    (hplain : ∀ name ∈ names, (name.toList.all fun c => isEncodable c && c != '\x00') = true)
    (hlong : tooLong ≤ (names.map fun name => 1 + octetCount name).sum) :
    obstruction? (Path.ofRoot names) = some .nameTooLong := by
  have hchar : ∀ name ∈ names, ∀ c ∈ name.toList, isEncodable c = true ∧ c ≠ '\x00' := by
    intro name hname c hc
    have hboth := List.all_eq_true.1 (hplain name hname) c hc
    rwa [Bool.and_eq_true, bne_iff_ne] at hboth
  have hencodable : (Path.ofRoot names).text.toList.all isEncodable = true := by
    rw [List.all_eq_true]
    intro c hc
    have hchars : c = '/' ∨ c ∈ Text.joinWith ['/'] (names.map String.toList) := by
      simpa [Path.ofRoot, Path.text, Text.join] using hc
    rcases hchars with rfl | hc
    · decide
    · rcases Text.mem_joinWith hc with hc | ⟨piece, hpiece, hc⟩
      · rw [List.mem_singleton.1 hc]
        decide
      · obtain ⟨name, hname, rfl⟩ := List.mem_map.1 hpiece
        exact (hchar name hname c hc).1
  have husable : isUsable (Path.ofRoot names) = true := by
    rw [isUsable, List.all_eq_true]
    intro name hname
    simpa using fun hnull => (hchar name hname _ hnull).2 rfl
  rw [← Path.octetCount_text_ofRoot hne] at hlong
  simp [obstruction?, hencodable, husable, hlong]

/-- A way that does not start in the working folder leads to the same from everywhere. -/
theorem look_of_start_ne_here (h : path.start ≠ .here) :
    f.look folder path = f.look folder' path := by
  have hstart : startPlace folder path = startPlace folder' path := by
    rw [startPlace, startPlace]
    split
    · next hhere => exact absurd hhere h
    · rfl
  rw [look, look, hstart]

/-- Only paths with many octets are too long to be followed at all. -/
theorem tooLong_le_of_obstruction? (h : obstruction? path = some .nameTooLong) :
    tooLong ≤ octetCount path.text := by
  rw [obstruction?] at h
  split at h
  · cases h
  · split at h
    · cases h
    · split at h
      · next hlong => exact hlong
      · cases h

/-- On a way no name is too long if each has few enough octets. -/
theorem follow_ne_nameTooLong {names : List String}
    (h : ∀ name ∈ names, octetCount name ≤ longestName) :
    f.follow folder names ≠ .error .nameTooLong := by
  induction names generalizing folder with
  | nil => simp
  | cons first rest ih =>
    obtain ⟨hfirst, hrest⟩ := List.forall_mem_cons.1 h
    rw [follow, if_neg (Nat.not_lt.2 hfirst)]
    split
    · exact ih hrest
    · split
      · simp
      · exact ih hrest
      · split <;> simp

/-- What is at the end of a way is there. -/
theorem exists_node_of_follow {names : List String} {name : String} {found : Place × Node}
    (hnames : ".." ∉ names) (hname : name ≠ "..")
    (h : f.follow folder (names ++ [name]) = .ok found) :
    ∃ node, f.node? (folder ++ (names ++ [name])) = some node := by
  induction names generalizing folder with
  | nil =>
    rw [List.nil_append, follow, if_neg hname] at h
    split at h
    · cases h
    · cases hnode : f.node? (folder ++ [name]) with
      | none => rw [hnode] at h; cases h
      | some node => exact ⟨node, hnode⟩
  | cons first rest ih =>
    rw [List.mem_cons, not_or] at hnames
    obtain ⟨hfirst, hrest⟩ := hnames
    rw [List.cons_append, follow, if_neg (Ne.symm hfirst)] at h
    split at h
    · cases h
    · split at h
      · cases h
      · have hnode := ih hrest h
        rwa [List.append_assoc] at hnode
      · simp at h

/-- Nothing lies at a place at which, and below which, no node is listed. -/
theorem node?_eq_none {place : Place} (hne : place ≠ [])
    (h : ∀ k ∈ f.nodes, ¬ place <+: k.1) : f.node? place = none := by
  have hlookup : f.nodes.lookup place = none := by
    rw [List.lookup_eq_none_iff]
    intro k hk
    rw [bne_iff_ne]
    rintro rfl
    exact h k hk List.prefix_rfl
  have hbelow : (f.nodes.any fun k => place.isPrefixOf k.1) = false := by
    rw [List.any_eq_false]
    intro k hk
    rw [List.isPrefixOf_iff_prefix]
    exact h k hk
  rw [node?, if_neg (by simpa using hne), hlookup]
  simp [hbelow]

end Files

namespace Workspace

variable {w : Workspace} {path : Path}

/-- A path leads to something exactly if it is present. -/
theorem present_eq_true_iff : w.present path = .ok true ↔ ∃ found, w.look path = .ok found := by
  rw [present, Files.present, look]
  cases w.files.look w.folder path with
  | ok found => simp
  | error e => cases e <;> simp

/-- A path cannot be looked for exactly if it is too long. -/
theorem present_eq_error_iff {e : FileError} :
    w.present path = .error e ↔ e = .nameTooLong ∧ w.look path = .error .nameTooLong := by
  rw [present, Files.present, look]
  cases w.files.look w.folder path with
  | ok found => simp
  | error e' => cases e' <;> simp [eq_comm]

/-- A place is the first of the folders around it. -/
theorem exists_ancestors_eq (place : Place) : ∃ outer, ancestors place = place :: outer := by
  rw [ancestors]
  split
  · next hroot => exact ⟨[], by rw [hroot]⟩
  · exact ⟨_, rfl⟩

/-- The folders around a place, up to one of them: first come those that are nearer. -/
theorem exists_nearer {project folder : Place} (h : project <+: folder) :
    ∃ nearer, ancestors folder = nearer ++ ancestors project ∧
      ∀ place, place ∈ nearer ↔ project <+: place ∧ place <+: folder ∧ place ≠ project := by
  obtain ⟨names, rfl⟩ := h
  induction names using List.reverseRecOn with
  | nil =>
    refine ⟨[], by simp, fun place => ?_⟩
    rw [List.append_nil]
    constructor
    · simp
    · rintro ⟨houter, hinner, hne⟩
      exact absurd (hinner.eq_of_length_le houter.length_le) hne
  | append_singleton names name ih =>
    obtain ⟨nearer, hancestors, hnearer⟩ := ih
    refine ⟨(project ++ (names ++ [name])) :: nearer, ?_, fun place => ?_⟩
    · rw [← List.append_assoc, ancestors_append, hancestors, List.cons_append]
    · rw [List.mem_cons, hnearer, ← List.append_assoc, List.prefix_concat_iff]
      constructor
      · rintro (rfl | ⟨houter, hinner, hne⟩)
        · refine ⟨?_, .inl rfl, by simp⟩
          rw [List.append_assoc]
          exact List.prefix_append _ _
        · exact ⟨houter, .inr hinner, hne⟩
      · rintro ⟨houter, rfl | hinner, hne⟩
        · exact .inl rfl
        · exact .inr ⟨houter, hinner, hne⟩

end Workspace

namespace Settings

/-- The path at which the settings in a folder lie. -/
def pathIn (place : Place) : Path :=
  (Path.ofRoot place).child fileName

/-- The settings of a project govern a workspace: no variable names others, commands work in
the project's folder or below it, that folder has settings, and no nearer one has any. -/
structure Governs (w : Workspace) (project : Place) : Prop where
  unnamed : w.value? variableName = none
  inside : project <+: w.folder
  holds : ∃ found, w.look (pathIn project) = .ok found
  nearest : ∀ place, project <+: place → place <+: w.folder → place ≠ project →
    ∀ found, w.look (pathIn place) ≠ .ok found

/-- On the way up to a project's folder lies one in which no settings can be looked for, since
the path would be too long. -/
def OutOfReach (w : Workspace) (project : Place) : Prop :=
  ∃ place, project <+: place ∧ place <+: w.folder ∧
    w.look (pathIn place) = .error .nameTooLong

/-- The path of the settings in a folder has more octets than in one around it. -/
theorem octetCount_pathIn_le {place folder : Place} (h : place <+: folder) :
    Files.octetCount (pathIn place).text ≤ Files.octetCount (pathIn folder).text := by
  obtain ⟨rest, rfl⟩ := h
  have hsize (place : Place) : Files.octetCount (pathIn place).text =
      (place.map fun name => 1 + Files.octetCount name).sum + (1 + Files.octetCount fileName) := by
    have hpath := Path.octetCount_text_ofRoot (List.append_ne_nil_of_right_ne_nil place
      (List.cons_ne_nil fileName []))
    rwa [List.map_append, List.sum_append, List.map_singleton, List.sum_singleton] at hpath
  rw [hsize, hsize, List.map_append, List.sum_append]
  omega

/-- Where the path of settings in the working folder is not too long, and no name on it is, no
folder around it is too deep. -/
theorem not_outOfReach_of_short {w : Workspace} {project : Place}
    (hshort : Files.octetCount (pathIn w.folder).text < Files.tooLong)
    (hnames : ∀ name ∈ w.folder, Files.octetCount name ≤ Files.longestName) :
    ¬OutOfReach w project := by
  rintro ⟨place, -, hinside, hlook⟩
  rw [Workspace.look, Files.look] at hlook
  split at hlook
  · refine Files.follow_ne_nameTooLong (fun name hname => ?_) hlook
    rcases List.mem_append.1 hname with hname | hname
    · exact hnames name (hinside.subset hname)
    · rw [List.mem_singleton.1 hname]
      decide
  · next e hlong =>
    cases hlook
    have hsize := Files.tooLong_le_of_obstruction? hlong
    have hle := octetCount_pathIn_le hinside
    omega

/-! ## The search -/

section Search

variable {w : Workspace} {paths rest : List Path} {path : Path} {project folder : Place}

/-- Paths that lead to nothing are passed over. -/
theorem firstPresent?_append (h : ∀ path ∈ paths, w.present path = .ok false) :
    firstPresent? w (paths ++ rest) = firstPresent? w rest := by
  induction paths with
  | nil => rfl
  | cons first others ih =>
    obtain ⟨hfirst, hothers⟩ := List.forall_mem_cons.1 h
    rw [List.cons_append, firstPresent?, hfirst]
    exact ih hothers

/-- The first path that cannot be looked for is the end, unless one before it leads to
something. -/
theorem firstPresent?_of_error (h : ∀ path ∈ paths, w.present path ≠ .ok true)
    {e : FileError} (hpath : path ∈ paths) (herror : w.present path = .error e) :
    firstPresent? w (paths ++ rest) = .error (.breakdown (.file .nameTooLong)) := by
  induction paths with
  | nil => cases hpath
  | cons first others ih =>
    obtain ⟨hfirst, hothers⟩ := List.forall_mem_cons.1 h
    rw [List.cons_append, firstPresent?]
    cases hpresent : w.present first with
    | error e' =>
      obtain ⟨rfl, -⟩ := Workspace.present_eq_error_iff.1 hpresent
      rfl
    | ok found =>
      cases found with
      | true => exact absurd hpresent hfirst
      | false =>
        rcases List.mem_cons.1 hpath with rfl | hpath
        · cases herror.symm.trans hpresent
        · exact ih hothers hpath

/-- Where settings govern a workspace, the search goes from the nearer folders, which have
none, to the project's. -/
theorem Governs.find?_eq (h : Governs w project) :
    ∃ nearer outer, find? w = firstPresent? w (nearer ++ pathIn project :: outer) ∧
      (∀ path ∈ nearer, w.present path ≠ .ok true) ∧
      ((∃ path ∈ nearer, ∃ e, w.present path = .error e) ↔ OutOfReach w project) := by
  obtain ⟨nearer, hancestors, hnearer⟩ := Workspace.exists_nearer h.inside
  obtain ⟨outer, houter⟩ := Workspace.exists_ancestors_eq project
  refine ⟨nearer.map pathIn, outer.map pathIn, ?_, ?_, ?_⟩
  · rw [find?, h.unnamed]
    change firstPresent? w ((Workspace.ancestors w.folder).map pathIn) = _
    rw [hancestors, houter, List.map_append, List.map_cons]
  · intro path hpath hpresent
    obtain ⟨place, hplace, rfl⟩ := List.mem_map.1 hpath
    obtain ⟨hbelow, hinside, hne⟩ := (hnearer place).1 hplace
    obtain ⟨found, hfound⟩ := Workspace.present_eq_true_iff.1 hpresent
    exact h.nearest place hbelow hinside hne found hfound
  · constructor
    · rintro ⟨path, hpath, e, herror⟩
      obtain ⟨place, hplace, rfl⟩ := List.mem_map.1 hpath
      obtain ⟨hbelow, hinside, -⟩ := (hnearer place).1 hplace
      exact ⟨place, hbelow, hinside, (Workspace.present_eq_error_iff.1 herror).2⟩
    · rintro ⟨place, hbelow, hinside, hlong⟩
      have hne : place ≠ project := by
        rintro rfl
        obtain ⟨found, hfound⟩ := h.holds
        cases hfound.symm.trans hlong
      exact ⟨pathIn place, List.mem_map_of_mem ((hnearer place).2 ⟨hbelow, hinside, hne⟩), _,
        Workspace.present_eq_error_iff.2 ⟨rfl, hlong⟩⟩

/-- Where settings govern a workspace and no folder on the way is too deep, they are found. -/
theorem find?_of_reach (h : Governs w project) (hreach : ¬OutOfReach w project) :
    find? w = .ok (some (pathIn project)) := by
  obtain ⟨nearer, outer, hfind, habsent, hout⟩ := h.find?_eq
  have hpassed : ∀ path ∈ nearer, w.present path = .ok false := by
    intro path hpath
    cases hpresent : w.present path with
    | error e => exact absurd (hout.1 ⟨path, hpath, e, hpresent⟩) hreach
    | ok found =>
      cases found with
      | true => exact absurd hpresent (habsent path hpath)
      | false => rfl
  rw [hfind, firstPresent?_append hpassed, firstPresent?,
    Workspace.present_eq_true_iff.2 h.holds]

/-- Where a folder on the way is too deep, the search breaks off. -/
theorem find?_of_outOfReach (h : Governs w project) (hout : OutOfReach w project) :
    find? w = .error (.breakdown (.file .nameTooLong)) := by
  obtain ⟨nearer, outer, hfind, habsent, hiff⟩ := h.find?_eq
  obtain ⟨path, hpath, e, herror⟩ := hiff.2 hout
  rw [hfind, firstPresent?_of_error habsent hpath herror]

/-- From two folders of a project the search comes to the same exactly if none of them is too
deep for it, or both are. -/
theorem find?_eq_iff (h : Governs w project) (h' : Governs (w.moved folder) project) :
    find? (w.moved folder) = find? w ↔
      (OutOfReach (w.moved folder) project ↔ OutOfReach w project) := by
  by_cases hout : OutOfReach w project <;> by_cases hout' : OutOfReach (w.moved folder) project
  · simp [find?_of_outOfReach h hout, find?_of_outOfReach h' hout', hout, hout']
  · simp [find?_of_outOfReach h hout, find?_of_reach h' hout', hout, hout']
  · simp [find?_of_reach h hout, find?_of_outOfReach h' hout', hout, hout']
  · simp [find?_of_reach h hout, find?_of_reach h' hout', hout, hout']

end Search

/-! ## The settings -/

section Found

variable {w : Workspace} {folder project : Place} {path : Path} {s : Settings}

/-- Settings that are read from a file belong to a folder. -/
theorem exists_root_of_loadFrom (hfound : ∃ found, w.look path = .ok found)
    (h : loadFrom w path = .ok s) : ∃ place, s.root = some (Path.ofRoot place) := by
  obtain ⟨⟨place, node⟩, hlook⟩ := hfound
  rw [loadFrom, hlook] at h
  cases node with
  | folder => cases h
  | file octets =>
    dsimp only at h
    split at h
    · cases h
    · rw [ofText] at h
      split at h
      · cases h
      · cases h
      · split at h
        · cases h
        · split at h
          · cases h
          · cases h
            exact ⟨_, rfl⟩

/-- Settings that govern a workspace belong to a folder. -/
theorem exists_root_of_load (h : Governs w project) (hload : load w = .ok s) :
    ∃ place, s.root = some (Path.ofRoot place) := by
  by_cases hout : OutOfReach w project
  · rw [load, find?_of_outOfReach h hout] at hload
    cases hload
  · rw [load, find?_of_reach h hout] at hload
    exact exists_root_of_loadFrom h.holds hload

/-- Settings are read from a path from the root the same way wherever commands work. -/
theorem loadFrom_moved (h : path.start ≠ .here) :
    loadFrom (w.moved folder) path = loadFrom w path := by
  have hlook : (w.moved folder).look path = w.look path := Files.look_of_start_ne_here h
  rw [loadFrom, loadFrom, hlook]
  rfl

/-- Where the search comes to the same, so does reading the settings. -/
theorem load_moved (h : Governs w project) (hfind : find? (w.moved folder) = find? w) :
    load (w.moved folder) = load w := by
  rw [load, load, hfind]
  by_cases hout : OutOfReach w project
  · rw [find?_of_outOfReach h hout]
  · rw [find?_of_reach h hout]
    exact loadFrom_moved (by simp [pathIn, Path.ofRoot])

/-- Where settings belong to a folder, the collections lie at the same paths wherever commands
work, and these are from the root. -/
theorem collectionPath_of_root {place : Place} (h : s.root = some (Path.ofRoot place))
    (folder folder' : Path) (platform : Platform) :
    s.collectionPath folder platform = s.collectionPath folder' platform ∧
      (s.collectionPath folder platform).start ≠ .here := by
  rw [collectionPath, collectionPath, h]
  exact ⟨rfl, Path.start_append_of_ne_here (by simp [Path.ofRoot]) _⟩

end Found

end Settings

/-! ## Commands -/

section Commands

open Settings

variable {w : Workspace} {folder project : Place} {path : Path}

/-- A collection is read from a path from the root the same way wherever commands work. -/
theorem Opened.load_moved (h : path.start ≠ .here) :
    Opened.load (w.moved folder) path = Opened.load w path := by
  have hread : (w.moved folder).read path = w.read path := by
    rw [Workspace.read, Workspace.read, Files.read, Files.read]
    exact congrArg (· >>= _) (Files.look_of_start_ne_here h)
  rw [Opened.load, Opened.load, hread]
  rfl

/-- Where the search for settings comes to the same, so does opening the collection of a
platform. -/
theorem Opened.find_moved (h : Governs w project) (hfind : find? (w.moved folder) = find? w)
    (named : Option Platform) :
    Opened.find (w.moved folder) named none = Opened.find w named none := by
  rw [Opened.find, Opened.find, Settings.load_moved h hfind]
  cases hload : Settings.load w with
  | error e => rfl
  | ok s =>
    obtain ⟨place, hroot⟩ := exists_root_of_load h hload
    have hplatform : Opened.platform (w.moved folder) s named = Opened.platform w s named := rfl
    rw [Stepwise.bind_of_eq_ok rfl, Stepwise.bind_of_eq_ok rfl, Opened.path, Opened.path,
      hplatform]
    cases Opened.platform w s named with
    | error e => rfl
    | ok platform =>
      obtain ⟨hpath, hstart⟩ := collectionPath_of_root hroot w.folderPath
        (w.moved folder).folderPath platform
      rw [Except.map, Except.map, ← hpath, Stepwise.bind_of_eq_ok rfl,
        Stepwise.bind_of_eq_ok rfl, Opened.load_moved hstart]

/-- What is built from a collection is the same wherever commands work. -/
theorem Command.buildText_moved (opened : Opened) (r : Request) (plain encoded : Bool) :
    buildText (w.moved folder) opened r plain encoded = buildText w opened r plain encoded := rfl

/-- Where the search for settings comes to the same, so does building a script from the
collection of a platform. -/
theorem Command.build_moved (h : Governs w project)
    (hfind : find? (w.moved folder) = find? w) {r : Request} (hfile : r.file = none)
    (plain encoded : Bool) :
    build (w.moved folder) r plain encoded none = build w r plain encoded none := by
  rw [build, build, hfile, Opened.find_moved h hfind]
  rfl

/-- From two folders of a project, the search for settings comes to the same exactly if none of
them is too deep for it, or both are; where the path of settings in a folder is not too long,
the folder is not too deep, and the search comes to the project's settings.  And where it comes
to the same, the settings are the same or fail for the same reason, the collections of all
platforms lie at the same paths, which are from the root, and the same collection is opened and
the same script built, or work fails for the same reason. -/
theorem project_works_from_subfolders (h : Governs w project)
    (h' : Governs (w.moved folder) project) :
    (find? (w.moved folder) = find? w ↔
      (OutOfReach (w.moved folder) project ↔ OutOfReach w project)) ∧
    (¬OutOfReach w project → find? w = .ok (some (pathIn project))) ∧
    (Files.octetCount (pathIn w.folder).text < Files.tooLong →
      (∀ name ∈ w.folder, Files.octetCount name ≤ Files.longestName) → ¬OutOfReach w project) ∧
    ((OutOfReach (w.moved folder) project ↔ OutOfReach w project) →
      Settings.load (w.moved folder) = Settings.load w ∧
      (∀ s, Settings.load w = .ok s → ∀ platform,
        s.collectionPath (w.moved folder).folderPath platform =
          s.collectionPath w.folderPath platform ∧
        (s.collectionPath w.folderPath platform).start ≠ .here) ∧
      ∀ r : Request, r.file = none → ∀ plain encoded,
        Opened.find (w.moved folder) r.platform r.file = Opened.find w r.platform r.file ∧
        (∀ opened, Command.buildText (w.moved folder) opened r plain encoded =
          Command.buildText w opened r plain encoded) ∧
        Command.build (w.moved folder) r plain encoded none =
          Command.build w r plain encoded none) := by
  refine ⟨find?_eq_iff h h', find?_of_reach h, not_outOfReach_of_short, fun hsame => ?_⟩
  have hfind := (find?_eq_iff h h').2 hsame
  refine ⟨Settings.load_moved h hfind, fun s hload platform => ?_, fun r hfile plain encoded => ?_⟩
  · obtain ⟨place, hroot⟩ := exists_root_of_load h hload
    obtain ⟨hpath, hstart⟩ := collectionPath_of_root hroot w.folderPath
      (w.moved folder).folderPath platform
    exact ⟨hpath.symm, hstart⟩
  · refine ⟨?_, fun opened => Command.buildText_moved opened r plain encoded,
      Command.build_moved h hfind hfile plain encoded⟩
    rw [hfile]
    exact Opened.find_moved h hfind r.platform

end Commands

/-! ## A project -/

section Project

open Settings Command

variable {source : String} {names rest : List String}

/-- The settings of the project are there. -/
theorem exists_look_projectWith (source : String) (names : List String) :
    ∃ found, (projectWith source names).look (pathIn ["project"]) = .ok found := by
  have hclear : Files.obstruction? (pathIn ["project"]) = none := by decide
  have hproject : (projectWith source names).files.node? ["project"] = some .folder := by
    rw [Files.node?, if_neg (by simp), projectWith]
    cases names <;> simp [List.lookup_cons]
  have hfile : (projectWith source names).files.node? ["project", fileName] =
      some (.file (octets settingsSource)) := by
    simp [Files.node?, projectWith]
  refine ⟨(["project", fileName], .file (octets settingsSource)), ?_⟩
  rw [Workspace.look, Files.look, hclear]
  change Files.follow _ [] ["project", fileName] = _
  rw [Files.follow, if_neg (by decide), if_neg (by decide), List.nil_append, hproject]
  dsimp only
  rw [Files.follow, if_neg (by decide), if_neg (by decide), List.singleton_append, hfile]
  rfl

/-- Below the project's own there is no file with settings. -/
theorem node?_projectWith (hnames : fileName ∉ names) (hrest : rest ≠ []) :
    (projectWith source names).files.node? ("project" :: (rest ++ [fileName])) = none := by
  have hcollection : ¬ ("project" :: (rest ++ [fileName])) <+:
      ["project", "collections", "linux.yaml"] := by
    intro hpre
    have hmem := hpre.subset (List.mem_cons_of_mem _ (List.mem_append_right rest
      (List.mem_singleton_self fileName)))
    revert hmem
    decide
  have hfile : ¬ ("project" :: (rest ++ [fileName])) <+: ["project", fileName] := by
    intro hpre
    have hlength := hpre.length_le
    simp at hlength
    exact hrest hlength
  have hfolder : ¬ ("project" :: (rest ++ [fileName])) <+: "project" :: names := by
    intro hpre
    have hbehind := (List.cons_prefix_cons.1 hpre).2
    exact hnames (hbehind.subset (by simp))
  refine Files.node?_eq_none (by simp) fun k hk => ?_
  rcases List.mem_cons.1 hk with rfl | hk
  · exact hfile
  · rcases List.mem_cons.1 hk with rfl | hk
    · exact hcollection
    · rw [List.mem_singleton.1 hk]
      exact hfolder

/-- In a folder of the project, its settings govern. -/
theorem governs_projectWith (hnames : fileName ∉ names) (hparent : ".." ∉ names)
    (hrest : rest <+: names) :
    Governs ((projectWith source names).moved ("project" :: rest)) ["project"] := by
  constructor
  · rfl
  · exact List.prefix_append ["project"] rest
  · obtain ⟨found, hfound⟩ := exists_look_projectWith source names
    exact ⟨found, (Files.look_of_start_ne_here (by simp [pathIn, Path.ofRoot])).trans hfound⟩
  · rintro place ⟨inner, rfl⟩ hinside hne found hfound
    have hinner : inner <+: names := (List.cons_prefix_cons.1 hinside).2.trans hrest
    have hbelow : inner ≠ [] := by
      rintro rfl
      exact hne rfl
    rw [Workspace.look, Files.look] at hfound
    split at hfound
    · have hup : ".." ∉ ["project"] ++ inner := by
        simpa using fun hmem => hparent (hinner.subset hmem)
      obtain ⟨node, hnode⟩ := Files.exists_node_of_follow hup (by decide) hfound
      cases hnode.symm.trans (node?_projectWith hnames hbelow)
    · cases hfound

/-- In the project's own folder its settings are in reach. -/
theorem not_outOfReach_projectWith (source : String) (names : List String) :
    ¬OutOfReach (projectWith source names) ["project"] := by
  rintro ⟨place, hbelow, hinside, hlong⟩
  cases hinside.eq_of_length_le hbelow.length_le
  obtain ⟨found, hfound⟩ := exists_look_projectWith source names
  cases hfound.symm.trans hlong

/-- In the project's own folder its script is built. -/
theorem build_project : build (projectWith singleSource ["scripts"]) wholeRequest false false none =
    ⟨singleExecution.script, "", none, [], .status 0⟩ :=
  (build_of_assembled find_single fragments_single build_single rfl).1

/-- In a folder of scripts the same settings are found, and the same script is built. -/
theorem scripts_folder_works :
    find? ((projectWith singleSource ["scripts"]).moved ["project", "scripts"]) =
      .ok (some (pathIn ["project"])) ∧
    Settings.load ((projectWith singleSource ["scripts"]).moved ["project", "scripts"]) =
      .ok projectSettings ∧
    build ((projectWith singleSource ["scripts"]).moved ["project", "scripts"]) wholeRequest
      false false none = ⟨singleExecution.script, "", none, [], .status 0⟩ := by
  have hout := not_outOfReach_projectWith singleSource ["scripts"]
  have hout' : ¬OutOfReach ((projectWith singleSource ["scripts"]).moved ["project", "scripts"])
      ["project"] := not_outOfReach_of_short (by decide) (by decide)
  have hgoverns : Governs (projectWith singleSource ["scripts"]) ["project"] :=
    governs_projectWith (by decide) (by decide) List.nil_prefix
  have hgoverns' : Governs ((projectWith singleSource ["scripts"]).moved ["project", "scripts"])
      ["project"] := governs_projectWith (by decide) (by decide) List.prefix_rfl
  obtain ⟨hfind, hreach, -, hsame⟩ := project_works_from_subfolders hgoverns hgoverns'
  have hboth := iff_of_false hout' hout
  obtain ⟨hload, -, hbuild⟩ := hsame hboth
  refine ⟨(hfind.2 hboth).trans (hreach hout), ?_, ?_⟩
  · exact hload.trans (load_settings_project singleSource)
  · exact (hbuild wholeRequest rfl false false).2.2.trans build_project

/-- As many letters take as many octets. -/
theorem octetCount_replicate (n : Nat) :
    Files.octetCount (String.ofList (List.replicate n 'x')) = n := by
  have hone : Files.octetsOf 'x' = 1 := by decide
  rw [Files.octetCount, String.toList_ofList, List.map_replicate, hone]
  simp

/-- A name nearly as long as one may be. -/
def deepName : String := String.ofList (List.replicate 254 'x')

/-- Folders of that name within each other. -/
def deepNames : List String := List.replicate 16 deepName

/-- How long that name is. -/
theorem octetCount_deepName : Files.octetCount deepName = 254 :=
  octetCount_replicate 254

/-- None of these folders has a shorter name. -/
theorem not_mem_deepNames {name : String} (h : Files.octetCount name < 254) : name ∉ deepNames := by
  intro hmem
  rw [List.eq_of_mem_replicate hmem, octetCount_deepName] at h
  omega

/-- The way to the innermost of these folders can still be written as a path. -/
theorem octets_deepNames :
    (("project" :: deepNames).map fun name => 1 + Files.octetCount name).sum = 4088 := by
  rw [deepNames, List.map_cons, List.map_replicate, octetCount_deepName]
  decide

/-- The way to a file in it cannot. -/
theorem obstruction?_deepNames :
    Files.obstruction? (pathIn ("project" :: deepNames)) = some .nameTooLong := by
  refine Files.obstruction?_ofRoot (by simp) ?_ ?_
  · intro name hmem
    have hcases : name = "project" ∨ name = deepName ∨ name = fileName := by
      simpa [Path.child, Path.ofRoot, deepNames, List.mem_replicate] using hmem
    rcases hcases with rfl | rfl | rfl
    · decide
    · have hchars : deepName.toList = List.replicate 254 'x' := String.toList_ofList
      simp only [hchars, List.all_replicate]
      decide
    · decide
  · have hfile :
        (([fileName] : List String).map fun name => 1 + Files.octetCount name).sum = 9 := by
      decide
    change Files.tooLong ≤ ((("project" :: deepNames) ++ [fileName]).map _).sum
    rw [List.map_append, List.sum_append, octets_deepNames, hfile]
    decide

/-- Where commands work in the innermost of these folders, the search for the settings of the
project breaks off. -/
theorem deep_folder_breaks_off :
    Governs (projectWith singleSource deepNames) ["project"] ∧
    Governs ((projectWith singleSource deepNames).moved ("project" :: deepNames)) ["project"] ∧
    Files.octetCount (Path.ofRoot ("project" :: deepNames)).text < Files.tooLong ∧
    find? (projectWith singleSource deepNames) = .ok (some (pathIn ["project"])) ∧
    find? ((projectWith singleSource deepNames).moved ("project" :: deepNames)) =
      .error (.breakdown (.file .nameTooLong)) ∧
    Settings.load ((projectWith singleSource deepNames).moved ("project" :: deepNames)) =
      .error (.breakdown (.file .nameTooLong)) := by
  have hfile : fileName ∉ deepNames := not_mem_deepNames (by decide)
  have hparent : ".." ∉ deepNames := not_mem_deepNames (by decide)
  have hgoverns : Governs (projectWith singleSource deepNames) ["project"] :=
    governs_projectWith hfile hparent List.nil_prefix
  have hgoverns' : Governs ((projectWith singleSource deepNames).moved ("project" :: deepNames))
      ["project"] := governs_projectWith hfile hparent List.prefix_rfl
  have hout : OutOfReach ((projectWith singleSource deepNames).moved ("project" :: deepNames))
      ["project"] := by
    refine ⟨"project" :: deepNames, List.prefix_append ["project"] deepNames, List.prefix_rfl, ?_⟩
    rw [Workspace.look, Files.look, obstruction?_deepNames]
  have hfind := find?_of_outOfReach hgoverns' hout
  refine ⟨hgoverns, hgoverns', ?_,
    find?_of_reach hgoverns (not_outOfReach_projectWith singleSource deepNames), hfind, ?_⟩
  · rw [Path.octetCount_text_ofRoot (by simp), octets_deepNames]
    decide
  · rw [Settings.load, hfind]

end Project

end Tweaks
