import NoteQuery.Proofs.Query.Projection
import NoteQuery.Proofs.Text.Ends
import NoteQuery.Vault.Scan

/-!
# The files of scanned notes

A scan reads files whose paths end in `.md`. All parts of the identity of such a file are known, and
none is empty but the title of a file named `.md`.

* `Path.suffix_toString`: the end of a path.
* `Scan.isNote_of_mem_records`: the files of the records of a scan.
* `FileIdentity.IsNote.reserved`: the parts of their identities.
-/

namespace NoteQuery

/-- The last component of a path stands at the end of its text. -/
theorem Path.suffix_toString {p : Path} {parts : List String} {last : String}
    (h : p.parts = parts ++ [last]) : last.toList <:+ p.toString.toList := by
  have hne : p.parts.isEmpty = false := by rw [h]; simp
  have hparts : last.toList <:+ ("/".intercalate p.parts).toList := by
    rw [String.toList_intercalate, h, List.map_append, List.map_singleton]
    -- Only components before the last one are added in front of it.
    generalize parts.map String.toList = front
    induction front with
    | nil => simp
    | cons part front ih =>
      have hcons : ∃ next rest, front ++ [last.toList] = next :: rest :=
        List.exists_cons_of_ne_nil (by simp)
      obtain ⟨next, rest, hrest⟩ := hcons
      rw [hrest] at ih
      rw [List.cons_append, hrest, List.intercalate_cons_cons]
      exact ih.trans (List.suffix_append _ _)
  rw [toString, hne, Bool.and_false, if_neg Bool.false_ne_true, String.toList_append]
  exact hparts.trans (List.suffix_append _ _)

/-! ## The identities of notes -/

/-- The identity of a file at a path that ends in `.md`. -/
def FileIdentity.IsNote (file : FileIdentity) : Prop :=
  ∃ path : String, ".md".toList <:+ path.toList ∧ file = ofPath path

/-- The title, the name and the path of a note are known. Only a title can be empty, that of a file
named `.md`. -/
theorem FileIdentity.IsNote.reserved {file : FileIdentity} (h : file.IsNote) {name : String}
    (hname : name ∈ Stage.identityNames) :
    ∃ s, Stage.reserved file name = some s ∧
      (s = "" → name = "title" ∧ file.name = some ".md") := by
  obtain ⟨path, ⟨front, hpath⟩, rfl⟩ := h
  have hlast : Text.afterLast '/' path.toList = Text.afterLast '/' front ++ ".md".toList := by
    rw [← hpath, Text.afterLast_append (by decide)]
  simp only [Stage.identityNames, List.mem_cons, List.not_mem_nil, or_false] at hname
  rcases hname with rfl | rfl | rfl
  · refine ⟨_, rfl, fun htitle => ⟨rfl, ?_⟩⟩
    rw [hlast, Text.withoutEnd_append] at htitle
    have hfront : Text.afterLast '/' front = [] := by simpa using htitle
    show some (String.ofList (Text.afterLast '/' path.toList)) = some ".md"
    rw [hlast, hfront]
    rfl
  · refine ⟨_, rfl, fun hempty => ?_⟩
    rw [hlast] at hempty
    simp at hempty
  · refine ⟨_, rfl, fun hempty => ?_⟩
    rw [hempty] at hpath
    simp at hpath

/-! ## The records of a scan -/

namespace Scan

variable {h : Host} {directory p : Path} {recursive : Bool} {r : Record}

theorem exists_last_of_isNote {parts : List String} (hnote : isNote parts) :
    ∃ front last, parts = front ++ [last] ∧ ".md".toList <:+ last.toList := by
  rw [isNote, Bool.and_eq_true] at hnote
  have hsuffix := List.isSuffixOf_iff_suffix.mp hnote.1
  rcases List.eq_nil_or_concat parts with rfl | ⟨front, last, rfl⟩
  · exact absurd hsuffix (by decide)
  · rw [List.concat_eq_append] at hsuffix ⊢
    exact ⟨front, last, rfl, by simpa using hsuffix⟩

theorem suffix_of_mem_notes (hp : p ∈ notes h directory recursive) :
    ".md".toList <:+ p.toString.toList := by
  unfold notes at hp
  split at hp
  · obtain ⟨parts, hparts, rfl⟩ := List.mem_map.mp hp
    have hnote := (List.mem_filter.mp (List.mem_mergeSort.mp hparts)).2
    obtain ⟨front, last, rfl, hlast⟩ := exists_last_of_isNote hnote
    exact hlast.trans (Path.suffix_toString (List.append_assoc _ _ _).symm)
  · cases hp

theorem exists_path_of_mem_ofPaths {paths : List Path} (hr : r ∈ (ofPaths h paths).value.records) :
    ∃ p ∈ paths, r.file = FileIdentity.ofPath p.toString := by
  induction paths with
  | nil => cases hr
  | cons p paths ih =>
    rw [ofPaths, List.foldr_cons, ← ofPaths, addNote] at hr
    have hrest : r ∈ (ofPaths h paths).value.records →
        ∃ q ∈ p :: paths, r.file = FileIdentity.ofPath q.toString := fun hr => by
      obtain ⟨q, hq, hfile⟩ := ih hr
      exact ⟨q, List.mem_cons_of_mem _ hq, hfile⟩
    cases hread : readNote h p with
    | error e =>
      rw [hread] at hr
      exact hrest hr
    | ok note =>
      rw [hread] at hr
      rcases List.mem_cons.mp hr with rfl | hr
      · refine ⟨p, List.mem_cons_self, ?_⟩
        unfold readNote at hread
        split at hread
        · cases hread
          rfl
        · cases hread
      · exact hrest hr

/-- The records of a scan come from notes. -/
theorem isNote_of_mem_records (hr : r ∈ (run h directory recursive).value.records) :
    r.file.IsNote := by
  obtain ⟨p, hp, hfile⟩ := exists_path_of_mem_ofPaths hr
  exact ⟨p.toString, suffix_of_mem_notes hp, hfile⟩

theorem notesIn_singleton {name : String} (hnote : isNote [name]) (bytes : List UInt8)
    (recursive : Bool) : notesIn (.directory [(name, .file bytes)]) recursive = [[name]] := by
  cases recursive <;> simp [notesIn, Tree.files, Tree.filesOf, Tree.ownFiles, Tree.isFile, hnote]

/-- A scan of a directory with one note reads that note. -/
theorem run_singleton {name : String} {bytes : List UInt8}
    (hfind : h.find directory = .ok (.directory [(name, .file bytes)])) (hnote : isNote [name])
    (recursive : Bool) :
    (run h directory recursive).value = (ofPaths h [directory.child name]).value := by
  have hnotes : notes h directory recursive = [directory.child name] := by
    rw [notes, hfind]
    simp only [notesIn_singleton hnote, List.map_singleton, Path.child]
  rw [run, hnotes]

end Scan

end NoteQuery
