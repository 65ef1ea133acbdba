import NoteQuery.Proofs.Query.FilterFailures
import NoteQuery.Proofs.Query.Projection

/-!
# What a query finds

If all its conditions have answers, and the keys that it sorts by can be compared, a query finds the
records that it keeps, sorted, cut off and projected. No record is lost or found twice: without a limit
the files of the rows are those of the kept records, and a limit only cuts the rows off. Without
predicates, what is missing for an answer is the text of an integer with too many digits.

* `run_eq_ok_iff`, `run_eq_ok`: the result of a run.
* `answers_of_isWritable`, `sortable_of_isWritable`: records and targets that can be written.
* `not_run_eq_ok_of_no_predicate`: a query that has no result.
* `run_accounts`: the files, the number and the names of the rows.
-/

namespace NoteQuery

namespace Stage

theorem limit_of_pos {n : Int} (h : 0 < n) (records : List Record) :
    limit (some n) records = records.take n.toNat := if_pos h

theorem limit_of_not_pos {n : Option Int} (h : ∀ i, n = some i → i ≤ 0) (records : List Record) :
    limit n records = records := by
  cases n with
  | none => rfl
  | some i => exact if_neg (by have := h i rfl; omega)

theorem limit_sublist (n : Option Int) (records : List Record) :
    (limit n records).Sublist records := by
  cases n with
  | none => exact List.Sublist.refl _
  | some i =>
    unfold limit
    dsimp only
    split
    · exact List.take_sublist _ _
    · exact List.Sublist.refl _

end Stage

namespace Query

/-- The records that satisfy every condition, in their order. -/
def kept (q : Query) (records : List Record) : List Record :=
  records.filter fun r => r.satisfies q.conditions.entries

/-- Every condition has an answer for each of the records. -/
def Answers (q : Query) (records : List Record) : Prop :=
  ∀ r ∈ records, r.Answers q.conditions.entries

/-- The query does not cut its result off. -/
def Unlimited (q : Query) : Prop := ∀ n, q.limit = some n → n ≤ 0

/-- The field that the query sorts by and the direction, if it sorts. -/
def sorting? (q : Query) : Option (String × SortOrder) :=
  match q.sort with
  | some ⟨some field, order⟩ => if field = "" then none else some (field, order)
  | _ => none

/-- The rows that the query finds. -/
def rows (q : Query) (records : List Record) : List Record :=
  (Stage.limit q.limit (Stage.sorted q.sort (q.kept records))).map (Stage.view q.fields)

/-- The keys by which the query sorts the records that it keeps can be compared. -/
def Sortable (q : Query) (records : List Record) : Prop := Stage.sortable q.sort (q.kept records)

variable {q : Query} {records : List Record}

/-- A run succeeds if its filter does and the keys can be compared, and then it finds the rows of the
query. -/
theorem run_eq_ok_iff {found : List Record} : q.run records = .ok found ↔
    Stage.filter q.inputs records = .ok (q.kept records) ∧ q.Sortable records ∧
      found = q.rows records := by
  rw [run]
  cases hfilter : Stage.filter q.inputs records with
  | error e => simp
  | ok kept =>
    obtain rfl : kept = q.kept records := Stage.eq_of_filter_eq_ok hfilter
    dsimp only
    cases hsort : Stage.sort q.sort (q.kept records) with
    | error e =>
      have hno := (Stage.sort_eq_error_iff.mp hsort).1
      simp [Sortable, hno]
    | ok sorted =>
      obtain ⟨hsortable, rfl⟩ := Stage.sort_eq_ok_iff.mp hsort
      simp only [Sortable, hsortable, Except.ok.injEq, true_and, rows, Stage.select_eq_map]
      exact eq_comm

theorem run_eq_ok (h : q.Answers records) (hsortable : q.Sortable records) :
    q.run records = .ok (q.rows records) :=
  run_eq_ok_iff.mpr ⟨Stage.filter_eq_ok h, hsortable, rfl⟩

theorem answers_of_isWritable (h : ∀ e ∈ q.conditions.entries, e.2.isPredicate = false)
    (hconditions : ∀ e ∈ q.conditions.entries, e.2.isWritable)
    (hrecords : ∀ r ∈ records, ∀ e ∈ q.conditions.entries, (r.get e.1).isWritable) :
    q.Answers records :=
  fun r hr => Record.answers_of_isWritable h hconditions (hrecords r hr)

theorem sorted_of_sorting?_none (h : q.sorting? = none) (records : List Record) :
    Stage.sorted q.sort records = records := by
  unfold sorting? at h
  match hsort : q.sort with
  | none => rfl
  | some ⟨none, _⟩ => rfl
  | some ⟨some field, order⟩ =>
    by_cases hfield : field = ""
    · exact if_pos hfield
    · rw [hsort] at h
      have hsome : some (field, order) = none := (if_neg hfield).symm.trans h
      cases hsome

theorem sorting?_eq_some_iff {field : String} {order : SortOrder} :
    q.sorting? = some (field, order) ↔ q.sort = some ⟨some field, order⟩ ∧ field ≠ "" := by
  unfold sorting?
  match hsort : q.sort with
  | none => simp
  | some ⟨none, _⟩ => simp
  | some ⟨some name, direction⟩ =>
    by_cases hname : name = ""
    · simp only [hname, if_true, reduceCtorEq, Option.some.injEq, Sorting.mk.injEq, false_iff]
      rintro ⟨⟨rfl, -⟩, hempty⟩
      exact hempty rfl
    · simp only [hname, if_false, Option.some.injEq, Prod.mk.injEq, Sorting.mk.injEq]
      refine ⟨?_, fun h => h.1⟩
      rintro ⟨rfl, rfl⟩
      exact ⟨⟨rfl, rfl⟩, hname⟩

theorem sortable_iff : q.Sortable records ↔ ∀ field order, q.sorting? = some (field, order) →
    Stage.mutuallyComparable ((q.kept records).map fun r => r.get field) := by
  constructor
  · intro h field order hsorting
    obtain ⟨hsort, hfield⟩ := sorting?_eq_some_iff.mp hsorting
    rw [Sortable, hsort, Stage.sortable, Bool.or_eq_true, decide_eq_true_iff] at h
    exact h.resolve_left hfield
  · intro h
    rw [Sortable]
    cases hsort : q.sort with
    | none => rfl
    | some sorting =>
      obtain ⟨_ | field, order⟩ := sorting
      · rfl
      · rw [Stage.sortable, Bool.or_eq_true, decide_eq_true_iff]
        by_cases hfield : field = ""
        · exact Or.inl hfield
        · exact Or.inr (h field order (sorting?_eq_some_iff.mpr ⟨hsort, hfield⟩))

theorem sortable_of_isWritable (h : ∀ field order, q.sorting? = some (field, order) →
    ∀ r ∈ records, (r.get field).isWritable) : q.Sortable records := by
  rw [sortable_iff]
  intro field order hsorting
  apply Stage.mutuallyComparable_of_isWritable
  rw [List.forall_mem_map]
  exact fun r hr => h field order hsorting r (List.mem_filter.mp hr).1

/-! ## Rows -/

theorem exists_of_mem_rows {row : Record} (h : row ∈ q.rows records) :
    ∃ r ∈ q.kept records, row = Stage.view q.fields r := by
  obtain ⟨r, hr, rfl⟩ := List.mem_map.mp h
  have hsorted := (Stage.limit_sublist _ _).mem hr
  exact ⟨r, (Stage.sorted_perm _ _).mem_iff.mp hsorted, rfl⟩

theorem map_file_rows (h : q.Unlimited) (records : List Record) :
    (q.rows records).map Record.file = (Stage.sorted q.sort (q.kept records)).map Record.file := by
  rw [rows, Stage.limit_of_not_pos h, List.map_map]
  exact List.map_congr_left fun r _ => Stage.view_file q.fields r

theorem rows_of_no_fields (hfields : q.fields.getD [] = []) (records : List Record) :
    q.rows records = Stage.limit q.limit (Stage.sorted q.sort (q.kept records)) := by
  have hview : Stage.view q.fields = id := by
    funext r
    match hnames : q.fields with
    | none => rfl
    | some [] => rfl
    | some (name :: names) => rw [hnames] at hfields; cases hfields
  rw [rows, hview, List.map_id]

theorem keys_of_mem_rows {names : List String} (hfields : q.fields = some names)
    (hnames : names ≠ []) {row : Record} (h : row ∈ q.rows records) :
    row.fields.keys = names.eraseDups := by
  obtain ⟨r, -, rfl⟩ := exists_of_mem_rows h
  rw [hfields, Stage.view_of_ne_nil hnames, Stage.keys_project]

/-- A search for an integer with too many digits. -/
theorem not_run_eq_ok_of_no_predicate :
    ¬ ∀ (q : Query) (records : List Record),
      (∀ e ∈ q.conditions.entries, e.2.isPredicate = false) → ∃ rows, q.run records = .ok rows := by
  intro h
  let c : Condition := .operator .contains .firstHuge
  let q : Query := { conditions := .ofList [("t", c)] }
  let record : Record := ⟨{}, .ofList [("t", .text "hello")]⟩
  have hfree : ∀ e ∈ q.conditions.entries, e.2.isPredicate = false := by
    intro e he
    have he : e = ("t", c) := List.mem_singleton.mp he
    rw [he]
    rfl
  have hanswers : c.answers (record.get "t") = false := Value.isWritable_firstHuge
  have hfilter : Stage.filter q.inputs [record] = .error .hugeInteger :=
    Stage.filter_singleton_eq_error rfl ⟨record, List.mem_singleton_self record, hanswers⟩
  obtain ⟨rows, hrun⟩ := h q [record] hfree
  rw [run, hfilter] at hrun
  cases hrun

/-- A query has a result if its conditions have answers and its keys can be compared. Whenever it has
one, it finds every record that it keeps once. A limit cuts the rows off, and each row is the record
itself or has the requested names, in the order in which they are first requested. -/
theorem run_accounts (q : Query) (records : List Record) :
    (q.Answers records → q.Sortable records → ∃ rows, q.run records = .ok rows) ∧
    ∀ rows, q.run records = .ok rows → ∃ all,
      ({ q with limit := none } : Query).run records = .ok all ∧
      (all.map Record.file).Perm ((q.kept records).map Record.file) ∧
      (q.sorting? = none → all.map Record.file = (q.kept records).map Record.file) ∧
      (q.Unlimited → rows = all) ∧
      (∀ n, q.limit = some n → 0 < n →
        rows = all.take n.toNat ∧ rows.length = min n.toNat all.length) ∧
      (∀ names, q.fields = some names → names ≠ [] →
        ∀ row ∈ rows, row.fields.keys = names.eraseDups) ∧
      (q.fields.getD [] = [] →
        all.Perm (q.kept records) ∧ (q.sorting? = none → all = q.kept records)) := by
  refine ⟨fun hanswers hsortable => ⟨_, run_eq_ok hanswers hsortable⟩, fun rows hrun => ?_⟩
  obtain ⟨hfilter, hsortable, rfl⟩ := run_eq_ok_iff.mp hrun
  let whole : Query := { q with limit := none }
  have hwhole : whole.Unlimited := fun n hn => by cases hn
  have hfiles := map_file_rows hwhole records
  refine ⟨whole.rows records, run_eq_ok_iff.mpr ⟨hfilter, hsortable, rfl⟩, ?_, ?_, ?_, ?_, ?_, ?_⟩
  · rw [hfiles]
    exact (Stage.sorted_perm _ _).map Record.file
  · intro hsorting
    rw [hfiles]
    exact congrArg (List.map Record.file) (sorted_of_sorting?_none hsorting _)
  · intro hunlimited
    rw [Query.rows, Stage.limit_of_not_pos hunlimited]
    rfl
  · intro n hn hpos
    have hrows : q.rows records = (whole.rows records).take n.toNat := by
      rw [Query.rows, hn, Stage.limit_of_pos hpos, List.map_take]
      rfl
    rw [hrows, List.length_take]
    exact ⟨rfl, rfl⟩
  · intro names hfields hnames row hrow
    exact keys_of_mem_rows hfields hnames hrow
  · intro hfields
    have hrows : whole.rows records = Stage.sorted q.sort (q.kept records) :=
      rows_of_no_fields (q := whole) hfields records
    rw [hrows]
    exact ⟨Stage.sorted_perm _ _, fun hsorting => sorted_of_sorting?_none hsorting _⟩

theorem run_accounts_of_predicate :
    let records : List Record :=
      [⟨{ path := some "a.md" }, .ofList [("n", .int 2)]⟩, ⟨{ path := some "b.md" }, .empty⟩,
        ⟨{ path := some "c.md" }, .ofList [("n", .int 1)]⟩]
    let q : Query :=
      { conditions := .ofList [("n", .predicate ⟨"value", fun v _ => .ok v⟩)]
        sort := some ⟨some "n", .ascending⟩
        limit := some 1
        fields := some ["n", "path", "n"] }
    q.Answers records ∧ q.Sortable records ∧ ∃ rows, q.run records = .ok rows ∧ rows.length = 1 ∧
      ∀ row ∈ rows, row.fields.keys = ["n", "path"] := by
  intro records q
  have hanswers : q.Answers records := by
    intro r _ e he
    have he : e = ("n", .predicate ⟨"value", fun v _ => .ok v⟩) := List.mem_singleton.mp he
    exact ⟨r.get "n", by rw [he]; rfl⟩
  have hsortable : q.Sortable records := by rfl
  obtain ⟨hresult, haccounts⟩ := run_accounts q records
  obtain ⟨rows, hrun⟩ := hresult hanswers hsortable
  obtain ⟨all, -, hfiles, -, -, hlimit, hkeys, -⟩ := haccounts rows hrun
  have hall : all.length = (q.kept records).length := by simpa using hfiles.length_eq
  have hkept : (q.kept records).length = 2 := by rfl
  refine ⟨hanswers, hsortable, rows, hrun, ?_, hkeys _ rfl (by decide)⟩
  rw [(hlimit 1 rfl (by decide)).2, hall, hkept]
  rfl

end Query

end NoteQuery
