import Mathlib.Data.List.Sort
import NoteQuery.Proofs.Vault.Listings

/-!
# The notes that are found

The notes of a directory depend on nothing but the files below it: they are its files whose names end
in `.md` and that have no directory of another program on the way, each once, in the order of their
components. Those directly in the directory are the ones that are found without going deeper. The path
of the directory itself has no part in it, so that a tree that is moved keeps its notes.

* `Tree.sameFiles_of_perm`: the order of entries.
* `Scan.notes_eq_map_below`: the notes of a directory and those of its tree.
* `Scan.notesIn_false`: the notes directly in a directory.
* `Scan.notesIn_congr`: trees with the same files.
* `Scan.finds_exactly_the_notes`: all of it.
-/

namespace NoteQuery

namespace Path

/-- The directory that a path leads to on its way. -/
def parent (p : Path) : Path := ⟨p.root, p.parts.dropLast⟩

/-- The components of a path seen from a directory above it. -/
def relativeTo (directory p : Path) : List String := p.parts.drop directory.parts.length

variable {directory : Path} {parts : List String}

theorem relativeTo_below : directory.relativeTo (directory.below parts) = parts :=
  List.drop_left

theorem below_injective : Function.Injective directory.below := by
  intro ps qs h
  have hparts : directory.parts ++ ps = directory.parts ++ qs := congrArg Path.parts h
  exact List.append_cancel_left hparts

/-- What is directly in a directory is what is one component below it. -/
theorem parent_below_eq_iff (hne : parts ≠ []) :
    (directory.below parts).parent = directory ↔ parts.length = 1 := by
  have hdropLast : (directory.below parts).parent = directory.below parts.dropLast := by
    unfold parent below
    rw [List.dropLast_append_of_ne_nil hne]
  rw [hdropLast]
  constructor
  · intro h
    have hlength : (directory.parts ++ parts.dropLast).length = directory.parts.length :=
      congrArg (fun p : Path => p.parts.length) h
    have hpos := List.length_pos_iff.mpr hne
    rw [List.length_append, List.length_dropLast] at hlength
    omega
  · intro h
    obtain ⟨name, rfl⟩ := List.length_eq_one_iff.mp h
    show Path.mk directory.root (directory.parts ++ []) = directory
    rw [List.append_nil]

end Path

namespace Tree

/-- Trees with the same files, whatever these hold and however the entries of directories are
ordered. -/
def SameFiles (t u : Tree) : Prop :=
  ∀ parts, (∃ bytes, t.Holds parts (.file bytes)) ↔ ∃ bytes, u.Holds parts (.file bytes)

variable {entries others : List (String × Tree)}

theorem holds_of_subset (hsubset : entries ⊆ others) {parts : List String} {bytes : List UInt8}
    (hholds : Holds (.directory entries) parts (.file bytes)) :
    Holds (.directory others) parts (.file bytes) := by
  cases hholds with
  | deeper entry rest => exact .deeper (hsubset entry) rest

/-- The order of the entries of a directory does not matter. -/
theorem sameFiles_of_perm (hperm : entries.Perm others) :
    SameFiles (.directory entries) (.directory others) := by
  intro parts
  constructor
  · rintro ⟨bytes, hholds⟩
    exact ⟨bytes, holds_of_subset hperm.subset hholds⟩
  · rintro ⟨bytes, hholds⟩
    exact ⟨bytes, holds_of_subset hperm.symm.subset hholds⟩

theorem wellFormed_of_perm (hperm : entries.Perm others) (h : WellFormed (.directory entries)) :
    WellFormed (.directory others) := by
  cases h with
  | directory nodup names below =>
    refine .directory ((hperm.map Prod.fst).nodup_iff.mp nodup) ?_ ?_
    · intro e he
      exact names e (hperm.mem_iff.mpr he)
    · intro e he
      exact below e (hperm.mem_iff.mpr he)

end Tree

namespace Scan

variable {h : Host} {directory : Path} {t u : Tree} {parts : List String} {recursive : Bool}

/-- Components that lead from a tree to a file whose name ends in `.md`, through no directory of
another program. -/
def LeadsToNote (t : Tree) (parts : List String) : Prop :=
  (∃ bytes, t.Holds parts (.file bytes)) ∧ ".md".toList <:+ (parts.getLastD "").toList ∧
    ∀ part ∈ parts, part ∉ [".git", ".obsidian", ".trash"]

theorem LeadsToNote.ne_nil (hnote : LeadsToNote t parts) : parts ≠ [] := by
  rintro rfl
  obtain ⟨-, hend, -⟩ := hnote
  exact absurd (List.suffix_nil.mp hend) (List.cons_ne_nil _ _)

theorem mem_notesIn_iff_leadsToNote :
    parts ∈ notesIn t recursive ↔ LeadsToNote t parts ∧ (recursive ∨ parts.length = 1) := by
  rw [mem_notesIn_iff, isNote_iff, LeadsToNote]
  constructor
  · rintro ⟨hnote, hdepth, hholds⟩
    exact ⟨⟨hholds, hnote⟩, hdepth⟩
  · rintro ⟨⟨hholds, hnote⟩, hdepth⟩
    exact ⟨hnote, hdepth, hholds⟩

theorem pairwise_lt_notesIn (ht : t.WellFormed) : (notesIn t recursive).Pairwise (· < ·) := by
  refine (pairwise_notesIn ht).imp ?_
  intro ps qs hlt
  exact Path.orderParts_eq_lt_iff.mp hlt

/-- The notes directly in a directory are those of its notes that have one component. -/
theorem notesIn_false (ht : t.WellFormed) :
    notesIn t false = (notesIn t true).filter (·.length == 1) := by
  refine (pairwise_lt_notesIn ht).eq_of_mem_iff ((pairwise_lt_notesIn ht).filter _) ?_
  intro parts
  rw [List.mem_filter, mem_notesIn_iff_leadsToNote, mem_notesIn_iff_leadsToNote]
  simp

/-- Trees with the same files have the same notes. -/
theorem notesIn_congr (ht : t.WellFormed) (hu : u.WellFormed) (hsame : u.SameFiles t) :
    notesIn u recursive = notesIn t recursive := by
  refine (pairwise_lt_notesIn hu).eq_of_mem_iff (pairwise_lt_notesIn ht) ?_
  intro parts
  rw [mem_notesIn_iff_leadsToNote, mem_notesIn_iff_leadsToNote, LeadsToNote, LeadsToNote,
    hsame parts]

theorem notes_eq_map_below (hfind : h.find directory = .ok t) :
    notes h directory recursive = (notesIn t recursive).map directory.below := by
  rw [notes, hfind]
  rfl

theorem map_relativeTo_notes (hfind : h.find directory = .ok t) :
    (notes h directory recursive).map directory.relativeTo = notesIn t recursive := by
  rw [notes_eq_map_below hfind, List.map_map]
  have hid : directory.relativeTo ∘ directory.below = id := by
    funext parts
    exact Path.relativeTo_below
  rw [hid, List.map_id]

/-- The notes directly in a directory are those of its notes whose parent it is. -/
theorem notes_false (ht : t.WellFormed) (hfind : h.find directory = .ok t) :
    notes h directory false = (notes h directory true).filter (·.parent = directory) := by
  rw [notes_eq_map_below hfind, notes_eq_map_below hfind, List.filter_map, notesIn_false ht]
  congr 1
  refine List.filter_congr ?_
  intro parts hparts
  have hnote := (mem_notesIn_iff_leadsToNote.mp hparts).1
  have hiff : (directory.below parts).parent = directory ↔ parts.length = 1 :=
    Path.parent_below_eq_iff hnote.ne_nil
  rw [Function.comp_apply, decide_eq_decide.mpr hiff, beq_eq_decide]

theorem pairwise_lt_notes (ht : t.WellFormed) (hfind : h.find directory = .ok t) :
    (notes h directory recursive).Pairwise fun p q => p.parts < q.parts := by
  rw [notes_eq_map_below hfind, List.pairwise_map]
  refine (pairwise_notesIn ht).imp ?_
  intro ps qs hlt
  rw [← Path.orderParts_eq_lt_iff]
  show Path.orderParts (directory.parts ++ ps) (directory.parts ++ qs) = .lt
  rw [Path.orderParts_append]
  exact hlt

theorem nodup_notes (ht : t.WellFormed) (hfind : h.find directory = .ok t) :
    (notes h directory recursive).Nodup := by
  rw [notes_eq_map_below hfind]
  exact (nodup_notesIn ht).map Path.below_injective

theorem mem_notes_iff_leadsToNote (hfind : h.find directory = .ok t) (p : Path) :
    p ∈ notes h directory true ↔ ∃ parts, LeadsToNote t parts ∧ p = directory.below parts := by
  rw [notes_eq_map_below hfind, List.mem_map]
  constructor
  · rintro ⟨parts, hparts, rfl⟩
    exact ⟨parts, (mem_notesIn_iff_leadsToNote.mp hparts).1, rfl⟩
  · rintro ⟨parts, hnote, rfl⟩
    exact ⟨parts, mem_notesIn_iff_leadsToNote.mpr ⟨hnote, Or.inl rfl⟩, rfl⟩

/-- What is found in a directory, at any depth, are its notes, in the strict order of their paths; what
is found without going deeper are those whose parent is the directory. A directory anywhere, also on
another machine, that has the same files below it has the same notes under the same components. -/
theorem finds_exactly_the_notes (ht : t.WellFormed) (hfind : h.find directory = .ok t) :
    ((notes h directory true).Pairwise fun p q => p.parts < q.parts) ∧
    (notes h directory true).Nodup ∧
    (∀ p, p ∈ notes h directory true ↔
      ∃ parts, LeadsToNote t parts ∧ p = directory.below parts) ∧
    notes h directory false = (notes h directory true).filter (·.parent = directory) ∧
    ∀ (host : Host) (moved : Path) (u : Tree), u.WellFormed → u.SameFiles t →
      host.find moved = .ok u → ∀ recursive,
        (notes host moved recursive).map moved.relativeTo =
          (notes h directory recursive).map directory.relativeTo := by
  refine ⟨pairwise_lt_notes ht hfind, nodup_notes ht hfind, mem_notes_iff_leadsToNote hfind,
    notes_false ht hfind, ?_⟩
  intro host moved u hu hsame hmoved recursive
  rw [map_relativeTo_notes hmoved, map_relativeTo_notes hfind, notesIn_congr ht hu hsame]

/-- Directories named like notes are entered, those of other programs are not, and `a` comes before
`a-b.md`. In a directory below `.git`, listed the other way round, the same notes are found. -/
theorem finds_exactly_the_notes_of_moved_tree :
    let entries : List (String × Tree) :=
      [("a", .directory [(".git", .directory [("c.md", .file [])]), ("b.md", .file [])]),
        ("a-b.md", .file []), ("x.md", .directory [(".md", .file []), ("y.txt", .file [])])]
    let host : Host := ⟨.directory [("n", .directory entries)], [], [], []⟩
    let other : Host :=
      ⟨.directory [(".git", .directory [("m", .directory entries.reverse)])], [], [], []⟩
    let directory : Path := ⟨.slash, ["n"]⟩
    let moved : Path := ⟨.slash, [".git", "m"]⟩
    Tree.WellFormed (.directory entries) ∧ host.find directory = .ok (.directory entries) ∧
      other.find moved = .ok (.directory entries.reverse) ∧
      notes host directory true =
        [directory.below ["a", "b.md"], directory.below ["a-b.md"],
          directory.below ["x.md", ".md"]] ∧
      notes host directory false = [directory.below ["a-b.md"]] ∧
      (notes other moved true).map moved.relativeTo =
        [["a", "b.md"], ["a-b.md"], ["x.md", ".md"]] := by
  intro entries host other directory moved
  have hleaf (name : String) (hname : Tree.IsName name) :
      Tree.WellFormed (.directory [(name, .file [])]) := by
    refine .directory (List.nodup_singleton _) ?_ ?_
    · simpa using hname
    · rw [List.forall_mem_singleton]
      exact .file _
  have hinner : Tree.WellFormed (.directory [(".md", .file []), ("y.txt", .file [])]) := by
    refine .directory (by decide) ?_ ?_
    · simp only [List.forall_mem_cons, Tree.IsName]
      decide
    · rw [List.forall_mem_cons, List.forall_mem_singleton]
      exact ⟨.file _, .file _⟩
  have hdeep : Tree.WellFormed
      (.directory [(".git", .directory [("c.md", .file [])]), ("b.md", .file [])]) := by
    refine .directory (by decide) ?_ ?_
    · simp only [List.forall_mem_cons, Tree.IsName]
      decide
    · rw [List.forall_mem_cons, List.forall_mem_singleton]
      exact ⟨hleaf "c.md" (by unfold Tree.IsName; decide), .file _⟩
  have htree : Tree.WellFormed (.directory entries) := by
    refine .directory (by decide) ?_ ?_
    · simp only [entries, List.forall_mem_cons, Tree.IsName]
      decide
    · rw [List.forall_mem_cons, List.forall_mem_cons, List.forall_mem_singleton]
      exact ⟨hdeep, .file _, hinner⟩
  have hfind : host.find directory = .ok (.directory entries) := rfl
  have hmoved : other.find moved = .ok (.directory entries.reverse) := rfl
  have hfiles : Tree.files (.directory entries) =
      [["a", ".git", "c.md"], ["a", "b.md"], ["a-b.md"], ["x.md", ".md"], ["x.md", "y.txt"]] := by
    simp [entries, Tree.files, Tree.filesOf]
  have hnotes : notes host directory true =
      [directory.below ["a", "b.md"], directory.below ["a-b.md"],
        directory.below ["x.md", ".md"]] := by
    rw [notes_eq_map_below hfind, notesIn, if_pos rfl, hfiles,
      show List.filter isNote _ = [["a", "b.md"], ["a-b.md"], ["x.md", ".md"]] from rfl,
      List.mergeSort_of_pairwise (by decide)]
    rfl
  obtain ⟨-, -, -, hown, hsame⟩ := finds_exactly_the_notes htree hfind
  have hperm : entries.reverse.Perm entries := entries.reverse_perm
  have hrelative := hsame other moved _ (Tree.wellFormed_of_perm hperm.symm htree)
    (Tree.sameFiles_of_perm hperm) hmoved true
  refine ⟨htree, hfind, hmoved, hnotes, ?_, ?_⟩
  · rw [hown, hnotes]
    rfl
  · rw [hrelative, hnotes]
    rfl

end Scan

end NoteQuery
