import Mathlib.Data.List.Nodup
import NoteQuery.Proofs.MergeSort
import NoteQuery.Proofs.OrderedMaps
import NoteQuery.Proofs.Text.Order
import NoteQuery.Proofs.Vault.ScannedNotes

/-!
# Listings of directories

The notes of a directory are listed once each and in order. What is listed are the files below the
directory that end in `.md` and have no directory of another program above them, or those directly in
it. Reading the path that is listed for a file reads that file.

* `Tree.mem_files_iff`, `Tree.ownFiles_eq`, `Tree.nodup_files`: the files of a tree.
* `Tree.walk_of_holds`, `Host.find_below`: the files of a tree and their paths.
* `Scan.mem_notes_iff`, `Scan.pairwise_notes`: the notes of a directory.
-/

namespace NoteQuery

namespace Tree

/-- Whether a text can be the name of a file: it is not empty, it is no dot and no double dot, and it
has no slash. -/
def IsName (name : String) : Prop := name ≠ "" ∧ name ≠ "." ∧ name ≠ ".." ∧ '/' ∉ name.toList

/-- A tree as a machine has it: in a directory each name stands once. -/
inductive WellFormed : Tree → Prop
  | file (bytes : List UInt8) : WellFormed (.file bytes)
  | directory {entries : List (String × Tree)} (nodup : (entries.map Prod.fst).Nodup)
      (names : ∀ e ∈ entries, IsName e.1) (below : ∀ e ∈ entries, WellFormed e.2) :
      WellFormed (.directory entries)

/-- A tree and what it holds at the end of some names. -/
inductive Holds : Tree → List String → Tree → Prop
  | here (t : Tree) : Holds t [] t
  | deeper {entries : List (String × Tree)} {e : String × Tree} {names : List String} {t : Tree}
      (entry : e ∈ entries) (rest : Holds e.2 names t) : Holds (.directory entries) (e.1 :: names) t

variable {entries : List (String × Tree)} {e : String × Tree} {parts names : List String}
  {bytes : List UInt8} {t u : Tree} {above : List Tree}

/-! ## Files -/

theorem holds_file_iff : Holds (.file bytes) parts t ↔ parts = [] ∧ t = .file bytes := by
  constructor
  · intro h
    cases h
    exact ⟨rfl, rfl⟩
  · rintro ⟨rfl, rfl⟩
    exact .here _

theorem not_holds_nil : ¬ Holds (.directory []) parts (.file bytes) := by
  intro h
  cases h with
  | deeper entry rest => cases entry

theorem holds_cons_iff : Holds (.directory (e :: entries)) parts (.file bytes) ↔
    (∃ names, parts = e.1 :: names ∧ Holds e.2 names (.file bytes)) ∨
      Holds (.directory entries) parts (.file bytes) := by
  constructor
  · intro h
    cases h with
    | deeper entry rest =>
      rcases List.mem_cons.mp entry with rfl | hmem
      · exact Or.inl ⟨_, rfl, rest⟩
      · exact Or.inr (.deeper hmem rest)
  · rintro (⟨names, rfl, h⟩ | h)
    · exact .deeper List.mem_cons_self h
    · cases h with
      | deeper entry rest => exact .deeper (List.mem_cons_of_mem _ entry) rest

theorem mem_filesOf_iff (entries : List (String × Tree)) (parts : List String) :
    parts ∈ filesOf entries ↔ ∃ bytes, Holds (.directory entries) parts (.file bytes) := by
  induction entries using filesOf.induct generalizing parts with
  | case1 => simp only [filesOf, List.not_mem_nil, not_holds_nil, exists_const]
  | case2 name bytes rest ih =>
    simp only [filesOf, List.mem_cons, ih, holds_cons_iff, exists_or, holds_file_iff]
    refine or_congr_left ?_
    constructor
    · rintro rfl
      exact ⟨_, [], rfl, rfl, rfl⟩
    · rintro ⟨_, _, rfl, rfl, -⟩
      rfl
  | case3 name entries rest ihEntries ih =>
    simp only [filesOf, List.mem_append, List.mem_map, ih, ihEntries, holds_cons_iff, exists_or]
    refine or_congr_left ?_
    constructor
    · rintro ⟨names, ⟨bytes, h⟩, rfl⟩
      exact ⟨bytes, names, rfl, h⟩
    · rintro ⟨bytes, names, rfl, h⟩
      exact ⟨names, ⟨bytes, h⟩, rfl⟩

/-- The files of a tree are what it holds below itself. -/
theorem mem_files_iff : parts ∈ t.files ↔ parts ≠ [] ∧ ∃ bytes, t.Holds parts (.file bytes) := by
  cases t with
  | file bytes =>
    rw [files]
    refine iff_of_false List.not_mem_nil ?_
    rintro ⟨hne, _, h⟩
    exact hne (holds_file_iff.mp h).1
  | directory entries =>
    rw [files, mem_filesOf_iff]
    refine (and_iff_right_of_imp ?_).symm
    rintro ⟨bytes, h⟩ rfl
    cases h

/-- The files directly in a directory are those of its files that have one name. -/
theorem ownFiles_eq (t : Tree) : t.ownFiles = t.files.filter (·.length == 1) := by
  cases t with
  | file bytes => rfl
  | directory entries =>
    rw [ownFiles, files]
    induction entries using filesOf.induct with
    | case1 => rw [filesOf, List.filterMap_nil, List.filter_nil]
    | case2 name bytes rest ih =>
      rw [filesOf, List.filter_cons_of_pos rfl, ← ih]
      rfl
    | case3 name entries rest _ ih =>
      have hdeep : ((filesOf entries).map (name :: ·)).filter (·.length == 1) = [] := by
        rw [List.filter_eq_nil_iff]
        rintro _ hparts hlength
        obtain ⟨names, hnames, rfl⟩ := List.mem_map.mp hparts
        have hne := (mem_files_iff (t := .directory entries)).mp hnames |>.1
        simp [hne] at hlength
      rw [filesOf, List.filter_append, hdeep, List.nil_append, ← ih]
      rfl

namespace WellFormed

theorem of_cons (h : WellFormed (.directory (e :: entries))) :
    IsName e.1 ∧ WellFormed e.2 ∧ WellFormed (.directory entries) ∧ e.1 ∉ entries.map Prod.fst := by
  cases h with
  | directory nodup names below =>
    obtain ⟨hname, hnames⟩ := List.forall_mem_cons.mp names
    obtain ⟨hentry, hbelow⟩ := List.forall_mem_cons.mp below
    obtain ⟨hmem, hnodup⟩ := List.nodup_cons.mp nodup
    exact ⟨hname, hentry, .directory hnodup hnames hbelow, hmem⟩

end WellFormed

/-- The first name of a file is that of an entry. -/
theorem head_mem_of_mem_filesOf {name : String} (h : name :: names ∈ filesOf entries) :
    name ∈ entries.map Prod.fst := by
  obtain ⟨bytes, hholds⟩ := (mem_filesOf_iff _ _).mp h
  cases hholds with
  | deeper entry rest => exact List.mem_map_of_mem entry

theorem nodup_filesOf (h : WellFormed (.directory entries)) : (filesOf entries).Nodup := by
  induction entries using filesOf.induct with
  | case1 =>
    rw [filesOf]
    exact List.nodup_nil
  | case2 name bytes rest ih =>
    obtain ⟨-, -, hrest, hname⟩ := h.of_cons
    rw [filesOf]
    exact List.nodup_cons.mpr ⟨fun hmem => hname (head_mem_of_mem_filesOf hmem), ih hrest⟩
  | case3 name entries rest ihEntries ih =>
    obtain ⟨-, hentries, hrest, hname⟩ := h.of_cons
    rw [filesOf, List.nodup_append]
    refine ⟨List.Nodup.map List.cons_injective (ihEntries hentries), ih hrest, ?_⟩
    rintro _ hfront _ hback rfl
    obtain ⟨names, -, rfl⟩ := List.mem_map.mp hfront
    exact hname (head_mem_of_mem_filesOf hback)

theorem nodup_files (h : t.WellFormed) : t.files.Nodup := by
  cases t with
  | file bytes => exact List.nodup_nil
  | directory entries => exact nodup_filesOf h

/-! ## Paths -/

theorem WellFormed.of_holds (h : t.WellFormed) (hholds : t.Holds parts u) :
    u.WellFormed ∧ ∀ part ∈ parts, IsName part := by
  induction hholds with
  | here t => exact ⟨h, fun _ hpart => by cases hpart⟩
  | deeper entry rest ih =>
    cases h with
    | directory nodup names below =>
      obtain ⟨hu, hparts⟩ := ih (below _ entry)
      exact ⟨hu, List.forall_mem_cons.mpr ⟨names _ entry, hparts⟩⟩

theorem walk_name {name : String} (hname : name ≠ "..") (hlookup : entries.lookup name = some t) :
    walk above (.directory entries) (name :: names) = walk (.directory entries :: above) t names := by
  simp only [walk, if_neg hname, hlookup]

/-- Walking along the names of what a tree holds leads there. -/
theorem walk_of_holds (h : t.WellFormed) (hholds : t.Holds parts u) (above : List Tree) :
    walk above t parts = .ok u := by
  induction hholds generalizing above with
  | here t => cases t <;> rfl
  | @deeper entries e names u entry rest ih =>
    cases h with
    | directory nodup hnames below =>
      have hlookup : entries.lookup e.1 = some e.2 :=
        (OrderedMap.get?_eq_some_iff (m := ⟨entries, nodup⟩)).mpr entry
      rw [walk_name (hnames e entry).2.2.1 hlookup]
      exact ih (below e entry) _

theorem walk_append (h : walk above t parts = .ok u) (names : List String) :
    ∃ passed, walk above t (parts ++ names) = walk passed u names := by
  induction parts generalizing above t with
  | nil =>
    cases t <;> cases h <;> exact ⟨above, rfl⟩
  | cons part parts ih =>
    cases t with
    | file bytes => cases h
    | directory entries =>
      simp only [List.cons_append, walk] at h ⊢
      by_cases hpart : part = ".."
      · rw [if_pos hpart] at h ⊢
        cases above with
        | nil => exact ih h
        | cons parent rest => exact ih h
      · rw [if_neg hpart] at h ⊢
        cases hlookup : entries.lookup part with
        | none =>
          rw [hlookup] at h
          cases h
        | some next =>
          rw [hlookup] at h
          exact ih h

theorem wellFormed_of_walk (habove : ∀ a ∈ above, a.WellFormed) (ht : t.WellFormed)
    (h : walk above t parts = .ok u) : u.WellFormed := by
  induction parts generalizing above t with
  | nil => cases t <;> cases h <;> exact ht
  | cons part parts ih =>
    cases t with
    | file bytes => cases h
    | directory entries =>
      simp only [walk] at h
      split at h
      · cases above with
        | nil => exact ih (fun a ha => by cases ha) ht h
        | cons parent rest =>
          obtain ⟨hparent, hrest⟩ := List.forall_mem_cons.mp habove
          exact ih hrest hparent h
      · cases hlookup : entries.lookup part with
        | none =>
          rw [hlookup] at h
          cases h
        | some next =>
          rw [hlookup] at h
          have hnext : next.WellFormed := by
            cases ht with
            | directory nodup names below =>
              obtain ⟨front, back, rfl, -⟩ := List.lookup_eq_some_iff.mp hlookup
              exact below (part, next) (List.mem_append_right _ List.mem_cons_self)
          exact ih (List.forall_mem_cons.mpr ⟨ht, habove⟩) hnext h

end Tree

variable {h : Host} {directory p : Path} {t u : Tree} {parts : List String} {recursive : Bool}

instance : Std.TransCmp Path.orderParts := inferInstanceAs (Std.TransOrd (List String))

instance : Std.LawfulEqCmp Path.orderParts := inferInstanceAs (Std.LawfulEqOrd (List String))

theorem Path.orderParts_append (front ps qs : List String) :
    orderParts (front ++ ps) (front ++ qs) = orderParts ps qs := by
  have hfront : List.compareLex compare front front = .eq :=
    Std.ReflCmp.compare_self
  show List.compareLex compare _ _ = List.compareLex compare _ _
  rw [Text.compareLex_append rfl, hfront, Ordering.eq_then]

/-- Components are ordered as lists of texts. -/
theorem Path.orderParts_eq_lt_iff {ps qs : List String} : orderParts ps qs = .lt ↔ ps < qs := by
  show List.compareLex compare ps qs = .lt ↔ _
  induction ps generalizing qs with
  | nil => cases qs <;> simp [List.compareLex_nil_cons, List.compareLex_nil_nil]
  | cons p ps ih =>
    cases qs with
    | nil => simp [List.compareLex_cons_nil]
    | cons q qs =>
      have htext : compare p q = compareOfLessAndEq p q := rfl
      rw [List.compareLex_cons_cons, Ordering.then_eq_lt, ih, htext, List.cons_lt_cons_iff]
      by_cases hlt : p < q
      · simp [compareOfLessAndEq, hlt]
      · by_cases heq : p = q
        · simp [compareOfLessAndEq, heq]
        · simp [compareOfLessAndEq, hlt, heq]

/-- The path of what a directory holds. -/
def Path.below (directory : Path) (parts : List String) : Path :=
  ⟨directory.root, directory.parts ++ parts⟩

theorem Host.locate_below : h.locate (directory.below parts) = h.locate directory ++ parts := by
  unfold locate Path.isAbsolute Path.below
  split
  · rfl
  · exact (List.append_assoc _ _ _).symm

theorem Host.wellFormed_of_find (htree : h.tree.WellFormed) (hfind : h.find directory = .ok t) :
    t.WellFormed :=
  Tree.wellFormed_of_walk (fun _ ha => by cases ha) htree hfind

/-- What a directory holds is found under its path. -/
theorem Host.find_below (htree : h.tree.WellFormed) (hfind : h.find directory = .ok t)
    (hholds : t.Holds parts u) : h.find (directory.below parts) = .ok u := by
  have ht := wellFormed_of_find htree hfind
  rw [find, Tree.find] at hfind
  obtain ⟨passed, hwalk⟩ := Tree.walk_append hfind parts
  rw [find, Tree.find, locate_below, hwalk, Tree.walk_of_holds ht hholds]

/-! ## Notes -/

namespace Scan

theorem isNote_iff : isNote parts ↔ ".md".toList <:+ (parts.getLastD "").toList ∧
    ∀ part ∈ parts, part ∉ skipped := by
  simp only [isNote, Bool.and_eq_true, List.isSuffixOf_iff_suffix, Bool.not_eq_true',
    List.any_eq_false, List.contains_iff_mem]

theorem mem_notesIn_iff : parts ∈ notesIn t recursive ↔
    isNote parts ∧ (recursive ∨ parts.length = 1) ∧ ∃ bytes, t.Holds parts (.file bytes) := by
  have hne (hnote : isNote parts) : parts ≠ [] := by
    rintro rfl
    exact absurd hnote (by decide)
  rw [notesIn, List.mem_mergeSort, List.mem_filter, and_comm]
  refine and_congr_right fun hnote => ?_
  cases recursive with
  | true =>
    rw [if_pos rfl, Tree.mem_files_iff]
    simp [hne hnote]
  | false =>
    rw [if_neg Bool.false_ne_true, Tree.ownFiles_eq, List.mem_filter, Tree.mem_files_iff]
    simp [hne hnote, and_comm]

theorem nodup_notesIn (ht : t.WellFormed) : (notesIn t recursive).Nodup := by
  have hfiles : (if recursive then t.files else t.ownFiles).Nodup := by
    split
    · exact Tree.nodup_files ht
    · rw [Tree.ownFiles_eq]
      exact (Tree.nodup_files ht).filter _
  exact (List.mergeSort_perm _ _).nodup_iff.mpr (hfiles.filter _)

/-- The notes of a tree stand in their order, each once. -/
theorem pairwise_notesIn (ht : t.WellFormed) :
    (notesIn t recursive).Pairwise fun ps qs => Path.orderParts ps qs = .lt := by
  have hsorted : (notesIn t recursive).Pairwise fun ps qs => (Path.orderParts ps qs).isLE :=
    List.pairwise_mergeSort (fun _ _ _ => Std.TransCmp.isLE_trans) MergeSort.isLE_total _
  refine (hsorted.and (nodup_notesIn ht)).imp ?_
  rintro ps qs ⟨hle, hne⟩
  cases horder : Path.orderParts ps qs with
  | lt => rfl
  | eq => exact absurd (Std.LawfulEqCmp.eq_of_compare horder) hne
  | gt =>
    rw [horder] at hle
    cases hle

/-- The files in a directory that a scan is about, with their bytes. -/
def IsEligible (h : Host) (directory : Path) (recursive : Bool) (p : Path) (bytes : List UInt8) :
    Prop :=
  ∃ t parts, h.find directory = .ok t ∧ t.Holds parts (.file bytes) ∧ p = directory.below parts ∧
    ".md".toList <:+ (parts.getLastD "").toList ∧
    (∀ part ∈ parts, part ∉ [".git", ".obsidian", ".trash"]) ∧ (recursive ∨ parts.length = 1)

theorem mem_notes_iff :
    p ∈ notes h directory recursive ↔ ∃ bytes, IsEligible h directory recursive p bytes := by
  unfold notes
  cases hfind : h.find directory with
  | error e => simp [IsEligible, hfind]
  | ok t =>
    simp only [List.mem_map, mem_notesIn_iff, isNote_iff, IsEligible, hfind]
    constructor
    · rintro ⟨parts, ⟨⟨hend, hskip⟩, hdepth, bytes, hholds⟩, rfl⟩
      exact ⟨bytes, t, parts, rfl, hholds, rfl, hend, hskip, hdepth⟩
    · rintro ⟨bytes, _, parts, hok, hholds, rfl, hend, hskip, hdepth⟩
      cases hok
      exact ⟨parts, ⟨⟨hend, hskip⟩, hdepth, bytes, hholds⟩, rfl⟩

/-- The notes of a directory are listed in the order of their paths, each once. -/
theorem pairwise_notes (htree : h.tree.WellFormed) :
    (notes h directory recursive).Pairwise fun p q => p.parts < q.parts := by
  unfold notes
  cases hfind : h.find directory with
  | error e => exact List.Pairwise.nil
  | ok t =>
    rw [List.pairwise_map]
    refine (pairwise_notesIn (Host.wellFormed_of_find htree hfind)).imp fun hlt => ?_
    rw [← Path.orderParts_eq_lt_iff, Path.orderParts_append]
    exact hlt

end Scan

end NoteQuery
