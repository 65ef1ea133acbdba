import NoteQuery.Proofs.Vault.Listings
import NoteQuery.Proofs.Vault.PoolRuns
import NoteQuery.Vault.Workers

/-!
# What a scan accounts for

Every note of a directory comes to a record or to a warning, and to one of them only. How many workers
read the notes makes no difference, whatever reading a file comes to. A query over the directory that
succeeds passes on the warnings of the scan.

* `FileIdentity.ofPath_toString`: the identity of a file.
* `Scan.ofOutcomes_map`, `Scan.length_outcomes`: what is made of the outcomes.
* `Scan.runsTo_iff`, `Scan.value_run`: scans with workers, and the one without.
* `Vault.asksWith_reader_iff`: queries.
* `Vault.scan_accounts_for_notes`: the whole account.
-/

namespace NoteQuery

/-! ## Names of files -/

/-- Between slashes, what stands before the last text is nothing or ends in a slash. -/
theorem Text.exists_intercalate_eq (sep : Char) (front : List (List Char)) (last : List Char) :
    ∃ start, [sep].intercalate (front ++ [last]) = start ++ last ∧
      (start = [] ∨ ∃ before, start = before ++ [sep]) := by
  induction front with
  | nil => exact ⟨[], List.intercalate_singleton, Or.inl rfl⟩
  | cons part front ih =>
    obtain ⟨start, heq, hstart⟩ := ih
    have hcons : ∃ next rest, front ++ [last] = next :: rest :=
      List.exists_cons_of_ne_nil (by simp)
    obtain ⟨next, rest, hrest⟩ := hcons
    rw [List.cons_append, hrest, List.intercalate_cons_cons, ← hrest, heq]
    refine ⟨part ++ [sep] ++ start, (List.append_assoc _ _ _).symm, Or.inr ?_⟩
    rcases hstart with rfl | ⟨before, rfl⟩
    · exact ⟨part, List.append_nil _⟩
    · exact ⟨part ++ [sep] ++ before, (List.append_assoc _ _ _).symm⟩

theorem Path.exists_toString_eq {p : Path} {front : List String} {last : String}
    (h : p.parts = front ++ [last]) :
    ∃ start, p.toString.toList = start ++ last.toList ∧ Text.afterLast '/' start = [] := by
  obtain ⟨start, heq, hstart⟩ :=
    Text.exists_intercalate_eq '/' (front.map String.toList) last.toList
  have hne : p.parts.isEmpty = false := by rw [h]; simp
  have htext : p.toString.toList = (rootText p.root).toList ++ start ++ last.toList := by
    rw [toString, hne, Bool.and_false, if_neg Bool.false_ne_true, String.toList_append,
      String.toList_intercalate, h, List.map_append, List.map_singleton, List.append_assoc, ← heq]
    rfl
  refine ⟨_, htext, ?_⟩
  rcases hstart with rfl | ⟨before, rfl⟩
  · rw [List.append_nil]
    cases p.root <;> decide
  · rw [← List.append_assoc]
    exact Text.afterLast_append_cons _ []

/-- The identity of a file whose name ends in `.md`. -/
theorem FileIdentity.ofPath_toString {p : Path} {front : List String} {title : String}
    (h : p.parts = front ++ [title ++ ".md"]) (hslash : '/' ∉ (title ++ ".md").toList) :
    ofPath p.toString = ⟨some p.toString, some (title ++ ".md"), some title⟩ := by
  obtain ⟨start, htext, hstart⟩ := Path.exists_toString_eq h
  have hname : Text.afterLast '/' p.toString.toList = (title ++ ".md").toList := by
    rw [htext, Text.afterLast_append hslash, hstart, List.nil_append]
  have htitle : Text.withoutEnd ".md".toList (title ++ ".md").toList = title.toList := by
    rw [String.toList_append, Text.withoutEnd_append]
  rw [ofPath, hname, htitle, String.ofList_toList, String.ofList_toList]

namespace Scan

variable {h : Host} {directory p : Path} {recursive : Bool} {read : FileReader} {workers : Nat}
  {paths : List Path} {scan : Scan}

/-! ## Outcomes -/

/-- The record of a file that has a text. -/
def record? (read : FileReader) (p : Path) : Option Record :=
  match read p with
  | .ok content => some (Document.record (String.ofList content) p.toString)
  | .error _ => none

/-- The warning for a file that has none. -/
def warning? (read : FileReader) (p : Path) : Option String :=
  match read p with
  | .ok _ => none
  | .error reason => some ("Could not read " ++ p.toString ++ ": " ++ reason)

theorem foldl_keep (read : FileReader) (paths : List Path) (scan : Scan) :
    (paths.map (outcome read)).foldl keep scan =
      ⟨scan.records ++ paths.filterMap (record? read),
        scan.warnings ++ paths.filterMap (warning? read)⟩ := by
  induction paths generalizing scan with
  | nil => simp
  | cons p paths ih =>
    rw [List.map_cons, List.foldl_cons, ih]
    cases hread : read p <;> simp [outcome, keep, record?, warning?, hread]

theorem ofOutcomes_map (read : FileReader) (paths : List Path) :
    ofOutcomes (paths.map (outcome read)) =
      ⟨paths.filterMap (record? read), paths.filterMap (warning? read)⟩ :=
  foldl_keep read paths {}

theorem length_outcomes (read : FileReader) (paths : List Path) :
    (paths.filterMap (record? read)).length + (paths.filterMap (warning? read)).length =
      paths.length := by
  induction paths with
  | nil => rfl
  | cons p paths ih =>
    cases hread : read p <;>
      simp only [List.filterMap_cons, record?, warning?, hread, List.length_cons] at ih ⊢ <;>
      omega

/-- The outcomes of notes do not depend on the number of workers. -/
theorem outcomes_iff (hworkers : 1 ≤ workers) {outcomes : List (Except String Record)} :
    Outcomes read workers paths outcomes ↔ outcomes = paths.map (outcome read) := by
  constructor
  · intro houtcomes
    cases houtcomes with
    | pool several mapped => exact (Pool.maps_iff hworkers).mp mapped
    | loop single => rfl
  · rintro rfl
    by_cases hseveral : 1 < workers ∧ 1 < paths.length
    · exact .pool hseveral ((Pool.maps_iff hworkers).mpr rfl)
    · exact .loop hseveral

theorem runsTo_iff (hworkers : 1 ≤ workers) :
    RunsTo h directory recursive workers read scan ↔
      scan = ⟨(notes h directory recursive).filterMap (record? read),
        (notes h directory recursive).filterMap (warning? read)⟩ := by
  simp only [RunsTo, outcomes_iff hworkers, exists_eq_left, ofOutcomes_map]

/-- The scan of a host is one over its own files. -/
theorem value_run (h : Host) (directory : Path) (recursive : Bool) :
    (run h directory recursive).value =
      ⟨(notes h directory recursive).filterMap (record? h.reader),
        (notes h directory recursive).filterMap (warning? h.reader)⟩ := by
  show (ofPaths h (notes h directory recursive)).value = _
  induction notes h directory recursive with
  | nil => rfl
  | cons p paths ih =>
    rw [ofPaths, List.foldr_cons, ← ofPaths, addNote, readNote]
    cases hread : h.readText p <;>
      simp [ih, record?, warning?, Host.reader, hread, Except.mapError]

/-- Reading a note is decoding its bytes. -/
theorem reader_of_isEligible (htree : h.tree.WellFormed) {bytes : List UInt8}
    (heligible : IsEligible h directory recursive p bytes) :
    h.reader p =
      match Utf8.decode bytes with
      | .ok content => .ok (Utf8.joinNewlines content)
      | .error fault => .error fault.message := by
  obtain ⟨t, parts, hfind, hholds, rfl, -⟩ := heligible
  rw [Host.reader, Host.readText, Host.find_below htree hfind hholds]
  dsimp only
  cases Utf8.decode bytes <;> rfl

/-- The identity of a note. -/
theorem exists_identity_of_isEligible (htree : h.tree.WellFormed) {bytes : List UInt8}
    (heligible : IsEligible h directory recursive p bytes) :
    ∃ title, p.parts.getLast? = some (title ++ ".md") ∧
      FileIdentity.ofPath p.toString = ⟨some p.toString, some (title ++ ".md"), some title⟩ := by
  obtain ⟨t, parts, hfind, hholds, rfl, ⟨start, hend⟩, -⟩ := heligible
  have hnames := ((Host.wellFormed_of_find htree hfind).of_holds hholds).2
  have hlast : ∃ front, parts = front ++ [String.ofList start ++ ".md"] := by
    rcases List.eq_nil_or_concat parts with rfl | ⟨front, last, rfl⟩
    · simp at hend
    · refine ⟨front, ?_⟩
      have hlast : last = String.ofList start ++ ".md" := by
        rw [← String.toList_inj]
        simpa using hend.symm
      rw [hlast, List.concat_eq_append]
  obtain ⟨front, hparts⟩ := hlast
  have hslash := (hnames (String.ofList start ++ ".md") (by rw [hparts]; simp)).2.2.2
  have hbelow : (directory.below parts).parts =
      (directory.parts ++ front) ++ [String.ofList start ++ ".md"] := by
    rw [Path.below, hparts, List.append_assoc]
  refine ⟨String.ofList start, ?_, FileIdentity.ofPath_toString hbelow hslash⟩
  rw [hbelow, List.getLast?_concat]

end Scan

/-! ## Queries -/

namespace Vault

variable {h : Host} {s : Settings} {r : Request} {read : FileReader}
  {o : Except Interruption Outcome}

/-- The warnings of an outcome: those of the scan, and one if it has met no notes. -/
def reported (directory : Path) (scan : Scan) : List String :=
  scan.warnings ++
    if scan.records = [] ∧ scan.warnings = [] then
      ["No markdown files found in " ++ directory.toString]
    else []

theorem scanWarnings_eq (scan : Scan) (directory : Path) :
    scanWarnings scan directory = reported directory scan := by
  rw [scanWarnings, reported]
  by_cases hrecords : scan.records = [] <;> by_cases hwarnings : scan.warnings = [] <;>
    simp [hrecords, hwarnings]

theorem warnings_of_answer {directory : Path} {scan : Scan} {outcome : Outcome}
    (h : answer s r directory scan = .ok outcome) : outcome.warnings = reported directory scan := by
  unfold answer at h
  split at h
  · cases h
  · cases h
    exact scanWarnings_eq scan directory

/-- A query answers as it does without workers. -/
theorem asksWith_reader_iff (hworkers : 1 ≤ s.scan.workers) :
    AsksWith h.reader h s r o ↔ o = (ask h s r).map Logged.value := by
  have hworkers : 1 ≤ s.scan.workers.toNat := by omega
  unfold AsksWith ask
  cases hdirectory : directory h s r.source with
  | none => rfl
  | some dir =>
    dsimp only
    cases hisDirectory : h.isDirectory dir with
    | false => rfl
    | true =>
      rw [if_pos rfl, Bool.not_true, if_neg Bool.false_ne_true]
      simp only [Scan.runsTo_iff hworkers, ← Scan.value_run, exists_eq_left, answer]
      cases r.query.run (Scan.run h dir s.scan.recursive).value.records <;> rfl

end Vault

/-! ## The account -/

/-- What the notes of a directory, in their order, come to when they are read. -/
structure Scan.Accounts (h : Host) (directory : Path) (recursive : Bool) (read : FileReader)
    (files : List Path) (scan : Scan) : Prop where
  records : scan.records = files.filterMap (record? read)
  warnings : scan.warnings = files.filterMap (warning? read)
  length : scan.records.length + scan.warnings.length = files.length
  identities : ∀ r ∈ scan.records, ∃ p ∈ files, ∃ title,
    p.parts.getLast? = some (title ++ ".md") ∧
      r.file = ⟨some p.toString, some (title ++ ".md"), some title⟩
  workers : ∀ workers, 1 ≤ workers → ∀ other,
    RunsTo h directory recursive workers read other ↔ other = scan
  queries : ∀ s r o, Vault.directory h s r.source = some directory →
    s.scan.recursive = recursive → 1 ≤ s.scan.workers → Vault.AsksWith read h s r (.ok o) →
    o.ok = true → o.warnings = Vault.reported directory scan

theorem Scan.exists_identity_of_mem {h : Host} {directory : Path} {recursive : Bool}
    {read : FileReader} {r : Record} (htree : h.tree.WellFormed)
    (hr : r ∈ (notes h directory recursive).filterMap (record? read)) :
    ∃ p ∈ notes h directory recursive, ∃ title, p.parts.getLast? = some (title ++ ".md") ∧
      r.file = ⟨some p.toString, some (title ++ ".md"), some title⟩ := by
  obtain ⟨p, hp, hrecord⟩ := List.mem_filterMap.mp hr
  obtain ⟨bytes, heligible⟩ := mem_notes_iff.mp hp
  obtain ⟨title, hlast, hidentity⟩ := exists_identity_of_isEligible htree heligible
  refine ⟨p, hp, title, hlast, ?_⟩
  unfold record? at hrecord
  split at hrecord
  · cases hrecord
    exact hidentity
  · cases hrecord

theorem Scan.accounts_notes {h : Host} (htree : h.tree.WellFormed) (directory : Path)
    (recursive : Bool) (read : FileReader) :
    Accounts h directory recursive read (notes h directory recursive)
      ⟨(notes h directory recursive).filterMap (record? read),
        (notes h directory recursive).filterMap (warning? read)⟩ where
  records := rfl
  warnings := rfl
  length := length_outcomes read _
  identities r hr := exists_identity_of_mem htree hr
  workers workers hworkers other := runsTo_iff hworkers
  queries s r o hdirectory hrecursive hworkers hasks hok := by
    unfold Vault.AsksWith at hasks
    rw [hdirectory] at hasks
    dsimp only at hasks
    split at hasks
    · obtain ⟨scan, hscan, hanswer⟩ := hasks
      rw [hrecursive, runsTo_iff (by omega)] at hscan
      rw [← hscan]
      exact Vault.warnings_of_answer hanswer.symm
    · cases hasks
      cases hok

namespace Vault

/-- The notes of a directory are its eligible files, in the order of their paths. Whatever reading
them comes to, each is accounted for once, by its record or by a warning, for any number of workers,
and queries report the warnings. The files of the host itself have the texts that their bytes are in
UTF-8. -/
theorem scan_accounts_for_notes {h : Host} (htree : h.tree.WellFormed) (directory : Path)
    (recursive : Bool) :
    ∃ files : List Path,
      (files.Pairwise fun p q => p.parts < q.parts) ∧
      (∀ p, p ∈ files ↔ ∃ bytes, Scan.IsEligible h directory recursive p bytes) ∧
      (∀ read, ∃ scan, Scan.Accounts h directory recursive read files scan) ∧
      Scan.Accounts h directory recursive h.reader files (Scan.run h directory recursive).value ∧
      (∀ p bytes, Scan.IsEligible h directory recursive p bytes →
        h.reader p =
          match Utf8.decode bytes with
          | .ok content => .ok (Utf8.joinNewlines content)
          | .error fault => .error fault.message) ∧
      ∀ s r o, 1 ≤ s.scan.workers →
        (AsksWith h.reader h s r o ↔ o = (ask h s r).map Logged.value) := by
  have haccounts := Scan.accounts_notes htree directory recursive
  refine ⟨Scan.notes h directory recursive, Scan.pairwise_notes htree, fun p => Scan.mem_notes_iff,
    fun read => ⟨_, haccounts read⟩, ?_, fun p bytes => Scan.reader_of_isEligible htree,
    fun s r o hworkers => asksWith_reader_iff hworkers⟩
  rw [Scan.value_run]
  exact haccounts h.reader

/-- Of two notes one is no UTF-8, and a note of another program is left out: there is one record, one
warning, and nothing else, also for three workers. -/
theorem scan_accounts_for_two_notes :
    let host : Host :=
      { tree := .directory [("a.md", .file []), (".git", .directory [("c.md", .file [])]),
          ("b.md", .file [0xff])]
        workingDirectory := []
        environment := []
        homes := [] }
    let scan := (Scan.run host ⟨.slash, []⟩ true).value
    host.tree.WellFormed ∧
      (∃ files, Scan.Accounts host ⟨.slash, []⟩ true host.reader files scan ∧ files.length = 2) ∧
      Scan.RunsTo host ⟨.slash, []⟩ true 3 host.reader scan ∧
      scan.records.map (·.file) = [⟨some "/a.md", some "a.md", some "a"⟩] ∧
      scan.warnings = ["Could not read /b.md: " ++
        "'utf-8' codec can't decode byte 0xff in position 0: invalid start byte"] := by
  intro host scan
  have hleaf : Tree.WellFormed (.directory [("c.md", .file [])]) := by
    refine .directory (by decide) ?_ ?_
    · simp only [List.forall_mem_singleton, Tree.IsName]
      decide
    · rw [List.forall_mem_singleton]
      exact .file _
  have htree : host.tree.WellFormed := by
    refine .directory (by decide) ?_ ?_
    · simp only [List.forall_mem_cons, Tree.IsName]
      decide
    · rw [List.forall_mem_cons, List.forall_mem_cons, List.forall_mem_singleton]
      exact ⟨.file _, hleaf, .file _⟩
  have hnotes : Scan.notes host ⟨.slash, []⟩ true =
      [⟨.slash, ["a.md"]⟩, ⟨.slash, ["b.md"]⟩] := by
    have hfiles : host.tree.files = [["a.md"], [".git", "c.md"], ["b.md"]] := by
      simp [host, Tree.files, Tree.filesOf]
    show (Scan.notesIn host.tree true).map _ = _
    rw [Scan.notesIn, if_pos rfl, hfiles,
      show List.filter Scan.isNote [["a.md"], [".git", "c.md"], ["b.md"]] = [["a.md"], ["b.md"]]
        from rfl, List.mergeSort_of_pairwise (by decide)]
    rfl
  obtain ⟨files, -, -, -, haccounts, -⟩ := scan_accounts_for_notes htree ⟨.slash, []⟩ true
  have hscan : scan = _ := Scan.value_run host ⟨.slash, []⟩ true
  rw [hnotes] at hscan
  have hrecords : scan.records.map (·.file) = [⟨some "/a.md", some "a.md", some "a"⟩] := by
    rw [hscan]
    rfl
  have hwarnings : scan.warnings = ["Could not read /b.md: " ++
      "'utf-8' codec can't decode byte 0xff in position 0: invalid start byte"] := by
    rw [hscan]
    rfl
  have hruns := (haccounts.workers 3 (by decide) scan).mpr rfl
  refine ⟨htree, ⟨files, haccounts, ?_⟩, hruns, hrecords, hwarnings⟩
  have hlength := congrArg List.length hrecords
  rw [List.length_map] at hlength
  rw [← haccounts.length, hlength, hwarnings]
  rfl

end Vault

end NoteQuery
