import Mathlib.Data.List.Induction
import NoteQuery.Proofs.Settings.LoadFailures
import NoteQuery.Proofs.Vault.Listings

/-!
# The nearest configuration file

Where no variable names a file, the file of a call is that of the deepest directory that has one, among
the start directory and those above it, the root included. A directory of the file's name is no file.
So directories without a file can be left out at the lower end: every start below a directory finds what
the directory finds, if none of the directories between them has a file. A variable that names a file
ends the search, and the start does not matter any more; a tilde at the start of the name stands for a
home directory.

* `Tree.find_normalParts`: double dots that are taken back lead to the same place.
* `Path.selfAndAbove_concat`, `Settings.nearestFile?_concat`: one step up.
* `Settings.nearestFile?_eq_some_iff`, `Settings.nearestFile?_eq_none_iff`: what the search finds.
* `Settings.nearestFile?_append`: directories without a file below a directory.
* `Settings.findFile_of_named`, `Settings.not_finds_file_as_written`: named files.
* `Settings.finds_nearest_file`: all of it.
-/

namespace NoteQuery

namespace Path

/-! ## Directories above each other -/

theorem selfAndAbove_nil : selfAndAbove [] = [[]] := rfl

/-- At or above something in a directory is the thing itself and what is at or above the directory. -/
theorem selfAndAbove_concat (parts : List String) (name : String) :
    selfAndAbove (parts ++ [name]) = (parts ++ [name]) :: selfAndAbove parts := by
  have hlength : (parts ++ [name]).length = parts.length + 1 := by simp
  rw [selfAndAbove, hlength, List.range_succ, List.reverse_append, List.map_append,
    selfAndAbove, List.reverse_singleton, List.map_singleton, ← hlength, List.take_length,
    List.singleton_append]
  congr 1
  refine List.map_congr_left ?_
  intro n hn
  rw [List.mem_reverse, List.mem_range] at hn
  exact List.take_append_of_le_length (by omega)

/-! ## Double dots -/

/-- The components behind those in front, with every double dot taken back. -/
def normalFrom (front parts : List String) : List String :=
  parts.foldl (fun acc part => if part = ".." then acc.dropLast else acc ++ [part]) front

theorem normalFrom_dots (front parts : List String) :
    normalFrom front (".." :: parts) = normalFrom front.dropLast parts := rfl

theorem normalFrom_name {name : String} (hname : name ≠ "..") (front parts : List String) :
    normalFrom front (name :: parts) = normalFrom (front ++ [name]) parts := by
  rw [normalFrom, List.foldl_cons, if_neg hname, normalFrom]

/-- Components without double dots are kept. -/
theorem normalParts_eq_self {parts : List String} (hdots : ".." ∉ parts) :
    normalParts parts = parts := by
  have hfront (front : List String) : normalFrom front parts = front ++ parts := by
    induction parts generalizing front with
    | nil => rw [List.append_nil]; rfl
    | cons name parts ih =>
      rw [List.mem_cons, not_or] at hdots
      rw [normalFrom_name (Ne.symm hdots.1), ih hdots.2, List.append_assoc, List.singleton_append]
  exact hfront []

/-! ## Home directories -/

/-- The path begins with a tilde, which stands for a home directory. -/
def BeginsWithTilde (p : Path) : Prop :=
  p.root = .relative ∧ ∃ first rest, p.parts = first :: rest ∧ first.toList.head? = some '~'

theorem expandHome_eq_self {p : Path} (htilde : ¬ p.BeginsWithTilde) (home : String → Option String) :
    p.expandHome home = some p := by
  unfold expandHome
  split
  · rename_i first rest hroot hparts
    split
    · rename_i account hfirst
      exact absurd ⟨hroot, first, rest, hparts, by rw [hfirst]; rfl⟩ htilde
    · rfl
  · rfl

end Path

namespace Tree

variable {root t u : Tree} {above : List Tree} {names parts : List String}

/-- Walking along some names from a root, none of them a double dot, leads to a tree, and past the
directories `above` it. -/
inductive Passes (root : Tree) : List String → List Tree → Tree → Prop
  | here : Passes root [] [] root
  | deeper {names : List String} {above : List Tree} {entries : List (String × Tree)} {name : String}
      {next : Tree} (passes : Passes root names above (.directory entries)) (hname : name ≠ "..")
      (hnext : entries.lookup name = some next) :
      Passes root (names ++ [name]) (.directory entries :: above) next

theorem Passes.walk_append (hpasses : Passes root names above t) (parts : List String) :
    walk [] root (names ++ parts) = walk above t parts := by
  induction hpasses generalizing parts with
  | here => rfl
  | @deeper names above entries name next passes hname hnext ih =>
    rw [List.append_assoc, List.singleton_append, ih, walk_name hname hnext]

/-- Going on from some names, a double dot takes the last of them back. -/
theorem Passes.exists_passes (hpasses : Passes root names above t)
    (hwalk : walk above t parts = .ok u) :
    ∃ above, Passes root (Path.normalFrom names parts) above u := by
  induction parts generalizing names above t with
  | nil =>
    cases t <;> cases hwalk <;> exact ⟨above, hpasses⟩
  | cons part parts ih =>
    cases t with
    | file bytes => cases hwalk
    | directory entries =>
      simp only [walk] at hwalk
      split at hwalk
      · rename_i hdots
        rw [hdots, Path.normalFrom_dots]
        -- A double dot at the root stays there.
        cases hpasses with
        | here => exact ih .here hwalk
        | deeper passes hname hnext =>
          rw [List.dropLast_concat]
          exact ih passes hwalk
      · rename_i hname
        rw [Path.normalFrom_name hname]
        cases hnext : entries.lookup part with
        | none =>
          rw [hnext] at hwalk
          cases hwalk
        | some next =>
          rw [hnext] at hwalk
          exact ih (.deeper hpasses hname hnext) hwalk

/-- What is found at a path is found where its double dots are taken back. -/
theorem find_normalParts (hfind : root.find parts = .ok u) :
    root.find (Path.normalParts parts) = .ok u := by
  obtain ⟨above, hpasses⟩ := Passes.here.exists_passes hfind
  have hwalk := hpasses.walk_append []
  rw [List.append_nil] at hwalk
  exact hwalk.trans (by cases u <;> rfl)

end Tree

namespace Settings

variable {h : Host} {start : Option Path} {directory found : List String} {path : Path}
  {name named : String}

/-! ## One step up -/

/-- There is a configuration file in the directory, and not another directory of that name. -/
def HasFile (h : Host) (directory : List String) : Prop :=
  ∃ bytes, h.tree.find (directory ++ [fileName]) = .ok (.file bytes)

/-- The path of the configuration file in a directory. -/
def fileOf (directory : List String) : Path := ⟨.slash, directory ++ [fileName]⟩

theorem isFile_fileOf_iff : h.isFile (fileOf directory) ↔ HasFile h directory := by
  constructor
  · exact exists_bytes_of_isFile
  · rintro ⟨bytes, hfind⟩
    have hfile : h.find (fileOf directory) = .ok (.file bytes) := hfind
    rw [Host.isFile, hfile]
    rfl

theorem fileIn?_of_hasFile (hfile : HasFile h directory) :
    fileIn? h directory = some (fileOf directory) := if_pos (isFile_fileOf_iff.mpr hfile)

theorem fileIn?_eq_none_iff : fileIn? h directory = none ↔ ¬ HasFile h directory := by
  constructor
  · intro hnone hfile
    rw [fileIn?_of_hasFile hfile] at hnone
    cases hnone
  · intro hfile
    exact if_neg (mt isFile_fileOf_iff.mp hfile)

theorem nearestFile?_nil : nearestFile? h [] = fileIn? h [] := by
  rw [nearestFile?, Path.selfAndAbove_nil, List.findSome?_singleton]

/-- Where a directory has no file, the search goes on in the one above it. -/
theorem nearestFile?_concat (directory : List String) (name : String) :
    nearestFile? h (directory ++ [name]) =
      (fileIn? h (directory ++ [name])).or (nearestFile? h directory) := by
  rw [nearestFile?, Path.selfAndAbove_concat, List.findSome?_cons, nearestFile?]
  cases fileIn? h (directory ++ [name]) <;> rfl

/-! ## The deepest directory with a file -/

/-- A directory that has a file, at or above another directory, and at or below all those that have one
there. -/
structure Nearest (h : Host) (directory found : List String) : Prop where
  above : found <+: directory
  hasFile : HasFile h found
  deepest : ∀ other, other <+: directory → HasFile h other → other <+: found

theorem nearest_of_hasFile (hfile : HasFile h directory) :
    Nearest h directory found ↔ found = directory := by
  constructor
  · intro hnearest
    have hbelow := hnearest.deepest directory List.prefix_rfl hfile
    exact hnearest.above.eq_of_length_le hbelow.length_le
  · rintro rfl
    exact ⟨List.prefix_rfl, hfile, fun other habove _ => habove⟩

theorem nearest_concat_iff (hfile : ¬ HasFile h (directory ++ [name])) :
    Nearest h (directory ++ [name]) found ↔ Nearest h directory found := by
  have habove {other : List String} (hother : HasFile h other) :
      other <+: directory ++ [name] ↔ other <+: directory := by
    rw [List.prefix_concat_iff]
    refine or_iff_right ?_
    rintro rfl
    exact hfile hother
  constructor
  · rintro ⟨above, hasFile, deepest⟩
    exact ⟨(habove hasFile).mp above, hasFile, fun other hother hhas =>
      deepest other ((habove hhas).mpr hother) hhas⟩
  · rintro ⟨above, hasFile, deepest⟩
    exact ⟨(habove hasFile).mpr above, hasFile, fun other hother hhas =>
      deepest other ((habove hhas).mp hother) hhas⟩

/-- The file that is found is that of the deepest directory that has one. -/
theorem nearestFile?_eq_some_iff : nearestFile? h directory = some path ↔
    ∃ found, Nearest h directory found ∧ path = fileOf found := by
  -- The components are taken off at the end, one for each step of the search.
  induction directory using List.reverseRecOn with
  | nil =>
    rw [nearestFile?_nil]
    by_cases hfile : HasFile h []
    · simp only [fileIn?_of_hasFile hfile, nearest_of_hasFile hfile, exists_eq_left,
        Option.some.injEq, eq_comm]
    · rw [fileIn?_eq_none_iff.mpr hfile]
      refine iff_of_false nofun ?_
      rintro ⟨found, hnearest, -⟩
      exact hfile (List.prefix_nil.mp hnearest.above ▸ hnearest.hasFile)
  | append_singleton directory name ih =>
    rw [nearestFile?_concat]
    by_cases hfile : HasFile h (directory ++ [name])
    · simp only [fileIn?_of_hasFile hfile, nearest_of_hasFile hfile, exists_eq_left,
        Option.some_or, Option.some.injEq, eq_comm]
    · simp only [fileIn?_eq_none_iff.mpr hfile, Option.none_or, ih, nearest_concat_iff hfile]

theorem nearestFile?_eq_none_iff : nearestFile? h directory = none ↔
    ∀ other, other <+: directory → ¬ HasFile h other := by
  induction directory using List.reverseRecOn with
  | nil => simp only [nearestFile?_nil, fileIn?_eq_none_iff, List.prefix_nil, forall_eq]
  | append_singleton directory name ih =>
    simp only [nearestFile?_concat, Option.or_eq_none_iff, fileIn?_eq_none_iff, ih,
      List.prefix_concat_iff, or_imp, forall_and, forall_eq]

/-- Directories without a file below a directory make no difference. -/
theorem nearestFile?_append {below : List String}
    (hnone : ∀ between, directory <+: between → between ≠ directory →
      between <+: directory ++ below → ¬ HasFile h between) :
    nearestFile? h (directory ++ below) = nearestFile? h directory := by
  induction below using List.reverseRecOn with
  | nil => rw [List.append_nil]
  | append_singleton below name ih =>
    rw [← List.append_assoc] at hnone ⊢
    have hlast : ¬ HasFile h (directory ++ below ++ [name]) := by
      refine hnone _ ?_ (by simp) List.prefix_rfl
      rw [List.append_assoc]
      exact List.prefix_append _ _
    rw [nearestFile?_concat, fileIn?_eq_none_iff.mpr hlast, Option.none_or]
    refine ih ?_
    intro between hbelow hne habove
    exact hnone between hbelow hne (habove.trans (List.prefix_append _ _))

/-! ## The start -/

/-- The components of the directory that the search starts in. -/
def startDirectory (h : Host) (start : Option Path) : List String :=
  (Path.resolve h.workingDirectory (start.getD h.currentDirectory)).parts

/-- An absolute start without double dots is where the search starts. -/
theorem startDirectory_of_absolute {p : Path} (habsolute : p.isAbsolute) (hdots : ".." ∉ p.parts) :
    startDirectory h (some p) = p.parts := by
  rw [startDirectory, Option.getD_some, Path.resolve, if_pos habsolute]
  exact Path.normalParts_eq_self hdots

/-- Wherever the start leads to, the search starts there. -/
theorem find_startDirectory {t : Tree} (hfind : h.find (start.getD h.currentDirectory) = .ok t) :
    h.tree.find (startDirectory h start) = .ok t :=
  Tree.find_normalParts hfind

/-! ## Files that are named -/

theorem findFile_of_unnamed (hunnamed : ∀ named, h.valueOf? fileVariable = some named → named = "") :
    findFile h start = .ok (nearestFile? h (startDirectory h start)) := by
  have hnone : (h.valueOf? fileVariable).filter (· != "") = none := by
    rw [Option.filter_eq_none_iff]
    intro named hnamed
    simp [hunnamed named hnamed]
  rw [findFile, hnone]
  rfl

theorem findFile_of_named (hnamed : h.valueOf? fileVariable = some named) (hne : named ≠ "")
    (hhome : (Path.ofString named).expandHome h.home = some path) :
    findFile h start = .ok (if h.isFile path then some path else none) := by
  have hsome : (h.valueOf? fileVariable).filter (· != "") = some named := by
    rw [hnamed, Option.filter_some, if_pos (bne_iff_ne.mpr hne)]
  simp only [findFile, hsome, expand, hhome]

/-- A name is not taken as it is written: with a tilde the file in the home directory is found, and with
the tilde of an unknown account there is no answer at all. -/
theorem not_finds_file_as_written :
    let atHome : Host :=
      ⟨.directory [("home", .directory [("c.toml", .file [])])], [],
        [("MDVIEWS_CONFIG", "~/c.toml"), ("HOME", "/home")], []⟩
    let unknown : Host := ⟨.directory [], [], [("MDVIEWS_CONFIG", "~ghost/c.toml")], []⟩
    atHome.isFile (Path.ofString "~/c.toml") = false ∧
      findFile atHome none = .ok (some ⟨.slash, ["home", "c.toml"]⟩) ∧
      findFile unknown none = .error .noHome ∧
      ¬ ∀ h start named, h.valueOf? fileVariable = some named → named ≠ "" →
        findFile h start = .ok
          (if h.isFile (Path.ofString named) then some (Path.ofString named) else none) := by
  intro atHome unknown
  have hwritten : atHome.isFile (Path.ofString "~/c.toml") = false := rfl
  have hfound : findFile atHome none = .ok (some ⟨.slash, ["home", "c.toml"]⟩) := rfl
  refine ⟨hwritten, hfound, rfl, fun hall => ?_⟩
  have hnone := hall atHome none "~/c.toml" rfl (by decide)
  rw [hfound, hwritten] at hnone
  cases hnone

/-- A host has no bound on the length of a name, no permissions and no links; where a system has them,
asking for a file may fail instead of answering.

Without a name for it, the file is that of the deepest directory that has one, at or above the start;
there is none exactly if none of these directories has one. Starts below a directory, with no file
between, find the same. With a name, the file is the one of that name, a tilde replaced by the home
directory, or there is none, whatever the start is. -/
theorem finds_nearest_file (h : Host) (start : Option Path) :
    (∀ p, start = some p → p.isAbsolute → ".." ∉ p.parts → startDirectory h start = p.parts) ∧
    (∀ t, h.find (start.getD h.currentDirectory) = .ok t →
      h.tree.find (startDirectory h start) = .ok t) ∧
    ((∀ named, h.valueOf? fileVariable = some named → named = "") →
      (∀ path, findFile h start = .ok (some path) ↔
        ∃ found, Nearest h (startDirectory h start) found ∧ path = fileOf found) ∧
      (findFile h start = .ok none ↔
        ∀ directory, directory <+: startDirectory h start → ¬ HasFile h directory) ∧
      ∀ lower, startDirectory h start <+: startDirectory h lower →
        (∀ between, startDirectory h start <+: between → between ≠ startDirectory h start →
          between <+: startDirectory h lower → ¬ HasFile h between) →
        findFile h lower = findFile h start) ∧
    ∀ named, h.valueOf? fileVariable = some named → named ≠ "" →
      (¬ (Path.ofString named).BeginsWithTilde → findFile h start = .ok
        (if h.isFile (Path.ofString named) then some (Path.ofString named) else none)) ∧
      ∀ path, (Path.ofString named).expandHome h.home = some path →
        findFile h start = .ok (if h.isFile path then some path else none) := by
  refine ⟨?_, fun t hfind => find_startDirectory hfind, ?_, ?_⟩
  · rintro p rfl habsolute hdots
    exact startDirectory_of_absolute habsolute hdots
  · intro hunnamed
    have hfind (start : Option Path) :
        findFile h start = .ok (nearestFile? h (startDirectory h start)) :=
      findFile_of_unnamed hunnamed
    refine ⟨fun path => ?_, ?_, fun lower hbelow hnone => ?_⟩
    · rw [hfind, Except.ok.injEq, nearestFile?_eq_some_iff]
    · rw [hfind, Except.ok.injEq, nearestFile?_eq_none_iff]
    · obtain ⟨below, hlower⟩ := hbelow
      rw [hfind, hfind, ← hlower]
      rw [← hlower] at hnone
      rw [nearestFile?_append hnone]
  · intro named hnamed hne
    exact ⟨fun htilde => findFile_of_named hnamed hne (Path.expandHome_eq_self htilde h.home),
      fun path hhome => findFile_of_named hnamed hne hhome⟩

/-- A directory of the file's name is passed on the way up, and a double dot is taken back. The home of
a name is the root here, and the start is not looked at. -/
theorem finds_nearest_file_past_directory :
    let tree : Tree := .directory [("mdviews.toml", .file []),
      ("a", .directory [("mdviews.toml", .directory []), ("b", .directory [])])]
    let h : Host := ⟨tree, [], [("MDVIEWS_CONFIG", "")], []⟩
    let named : Host := ⟨tree, [], [("MDVIEWS_CONFIG", "~/mdviews.toml"), ("HOME", "/")], []⟩
    let top : Option Path := some ⟨.slash, []⟩
    let deep : Option Path := some ⟨.slash, ["a", "b", "..", "b"]⟩
    startDirectory h top = [] ∧ h.tree.find (startDirectory h deep) = .ok (.directory []) ∧
      findFile h top = .ok (some ⟨.slash, ["mdviews.toml"]⟩) ∧ findFile h deep = findFile h top ∧
      findFile named deep = .ok (some ⟨.slash, ["mdviews.toml"]⟩) := by
  intro tree h named top deep
  have hunnamed : ∀ named, h.valueOf? fileVariable = some named → named = "" := by
    intro name hname
    exact (Option.some.inj hname).symm
  obtain ⟨hself, -, hsearch, -⟩ := finds_nearest_file h top
  obtain ⟨hfound, -, hlower⟩ := hsearch hunnamed
  obtain ⟨-, hleads, -, -⟩ := finds_nearest_file h deep
  obtain ⟨-, -, -, hnamed⟩ := finds_nearest_file named deep
  have hnearest : Nearest h [] [] :=
    ⟨List.prefix_rfl, ⟨[], rfl⟩, fun other habove _ => habove⟩
  have hblocked : ¬ HasFile h ["a"] := nofun
  have hempty : ¬ HasFile h ["a", "b"] := nofun
  have hnone : ∀ between, between ≠ [] → between <+: ["a", "b"] → ¬ HasFile h between := by
    intro between hne habove
    rcases List.prefix_concat_iff.mp (show between <+: ["a"] ++ ["b"] from habove) with rfl | habove
    · exact hempty
    · rcases List.prefix_concat_iff.mp (show between <+: [] ++ ["a"] from habove) with rfl | habove
      · exact hblocked
      · exact absurd (List.prefix_nil.mp habove) hne
  refine ⟨hself _ rfl rfl List.not_mem_nil, hleads _ rfl, ?_, ?_, ?_⟩
  · exact (hfound _).mpr ⟨[], hnearest, rfl⟩
  · exact hlower deep List.nil_prefix fun between _ hne habove => hnone between hne habove
  · exact (hnamed _ rfl (by decide)).2 ⟨.slash, ["mdviews.toml"]⟩ rfl

end Settings

end NoteQuery
