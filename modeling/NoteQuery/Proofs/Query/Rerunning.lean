import NoteQuery.Proofs.Query.Running
import NoteQuery.Proofs.Query.SortKeys

/-!
# Running a query on its own result

A query reads the fields of the records, but its rows show the identity of the file under `title`,
`name` and `path`. So its conditions and its sorting may say another thing of the rows than of the
records, and a second run may change the result. It does not if the rows satisfy the conditions and
stand in order by what they show; and they do if every field that the query names shows what the
records hold there.

* `not_run_run`: a query that drops its own result.
* `run_of_satisfies`: a run on records that are kept.
* `rows_rows_iff`: when a second run changes nothing.
* `satisfies_of_mem_rows`, `ordered_rows`: fields that show what the records hold.
* `run_run`: all of it.
-/

namespace NoteQuery

namespace Stage

/-- A limit that the records do not exceed. -/
def Fits (n : Option Int) (records : List Record) : Prop :=
  ∀ i, n = some i → 0 < i → records.length ≤ i.toNat

theorem limit_eq_self {n : Option Int} {records : List Record} (h : Fits n records) :
    limit n records = records := by
  by_cases hpos : ∃ i, n = some i ∧ 0 < i
  · obtain ⟨i, rfl, hi⟩ := hpos
    rw [limit_of_pos hi, List.take_of_length_le (h i rfl hi)]
  · exact limit_of_not_pos (fun i hi => Int.not_lt.mp fun hlt => hpos ⟨i, hi, hlt⟩) records

theorem fits_limit (n : Option Int) (records : List Record) : Fits n (limit n records) := by
  rintro i rfl hi
  rw [limit_of_pos hi, List.length_take]
  exact Nat.min_le_left _ _

end Stage

namespace Query

/-- No condition of the query is a predicate. -/
def PredicateFree (q : Query) : Prop := ∀ e ∈ q.conditions.entries, e.2.isPredicate = false

/-- The fields of the conditions and the field that is sorted by. -/
def named (q : Query) : List String := q.conditions.keys ++ (q.sorting?.map Prod.fst).toList

/-- The records stand as the query sorts them. -/
def Ordered (q : Query) (records : List Record) : Prop :=
  ∀ field order, q.sorting? = some (field, order) → records.Pairwise fun r s =>
    (Stage.orderKeys order (r.get field) (s.get field)).isLE

/-- The keys that the query sorts the records by are comparable. -/
def ComparableKeys (q : Query) (records : List Record) : Prop :=
  ∀ field order, q.sorting? = some (field, order) →
    Value.Comparable (records.map fun r => r.get field)

variable {q : Query} {records : List Record}

/-- A record whose title is found by its field and shown by the name of its file. -/
theorem not_run_run :
    ¬ ∀ (q : Query) (records rows : List Record), q.PredicateFree →
      (∀ names, q.fields = some names → names ≠ [] → ∀ name ∈ q.named, name ∈ names) →
      q.ComparableKeys (q.kept records) → q.ComparableKeys rows → q.run records = .ok rows →
      q.run rows = .ok rows := by
  intro h
  let q : Query :=
    { conditions := .ofList [("title", .literal (.text "X"))], fields := some ["title"] }
  let file : FileIdentity := ⟨some "foo.md", some "foo.md", some "foo"⟩
  have hfree : q.PredicateFree := by
    intro e he
    have he : e = ("title", .literal (.text "X")) := List.mem_singleton.mp he
    rw [he]
    rfl
  have hnamed : ∀ names, q.fields = some names → names ≠ [] → ∀ name ∈ q.named, name ∈ names := by
    intro names hnames _ name hname
    cases hnames
    exact hname
  have hunsorted : ∀ records, q.ComparableKeys records := by
    intro records field order hsorting
    cases hsorting
  have hrun : q.run [⟨file, .ofList [("title", .text "X")]⟩] =
      .ok [⟨file, .ofList [("title", .text "foo")]⟩] := rfl
  have hagain := h q _ _ hfree hnamed (hunsorted _) (hunsorted _) hrun
  have hnone : q.run [⟨file, .ofList [("title", .text "foo")]⟩] = .ok [] := rfl
  rw [hnone] at hagain
  cases hagain

/-! ## Records that are kept -/

theorem ComparableKeys.mono {others : List Record} (h : q.ComparableKeys records)
    (hsub : ∀ r ∈ others, r ∈ records) : q.ComparableKeys others := by
  intro field order hsorting
  refine (h field order hsorting).mono ?_
  rw [List.forall_mem_map]
  exact fun r hr => List.mem_map_of_mem (hsub r hr)

theorem ComparableKeys.sortable (h : q.ComparableKeys (q.kept records)) : q.Sortable records := by
  rw [sortable_iff]
  intro field order hsorting
  have hcomparable := (h field order hsorting).isComparable
  exact Stage.mutuallyComparable_iff.mpr (List.pairwise_of_forall_mem_list hcomparable)

/-- Records that satisfy the conditions, and whose keys are comparable, have a result. -/
theorem run_of_satisfies (hsatisfies : ∀ r ∈ records, r.satisfies q.conditions.entries)
    (hkeys : q.ComparableKeys records) : q.run records = .ok (q.rows records) :=
  run_eq_ok (fun r hr => Record.answers_of_satisfies (hsatisfies r hr))
    (hkeys.mono fun _ hr => (List.mem_filter.mp hr).1).sortable

/-! ## Rows as records -/

theorem view_of_mem_rows {row : Record} (h : row ∈ q.rows records) :
    Stage.view q.fields row = row := by
  obtain ⟨r, -, rfl⟩ := exists_of_mem_rows h
  exact Stage.view_view q.fields r

theorem map_view_of_subset_rows {rs : List Record} (h : ∀ r ∈ rs, r ∈ q.rows records) :
    rs.map (Stage.view q.fields) = rs := by
  have hview : rs.map (Stage.view q.fields) = rs.map id :=
    List.map_congr_left fun r hr => view_of_mem_rows (h r hr)
  rw [hview, List.map_id]

theorem fits_rows (q : Query) (records : List Record) : Stage.Fits q.limit (q.rows records) := by
  intro i hn hi
  rw [rows, List.length_map]
  exact Stage.fits_limit _ _ i hn hi

theorem sorted_of_ordered (h : q.Ordered records) : Stage.sorted q.sort records = records := by
  cases hsorting : q.sorting? with
  | none => exact sorted_of_sorting?_none hsorting records
  | some key =>
    obtain ⟨field, order⟩ := key
    rw [(sorting?_eq_some_iff.mp hsorting).1]
    exact Stage.sorted_eq_self order (h field order hsorting)

theorem ordered_sorted (h : q.ComparableKeys records) :
    q.Ordered (Stage.sorted q.sort records) := by
  intro field order hsorting
  obtain ⟨hsort, hfield⟩ := sorting?_eq_some_iff.mp hsorting
  rw [hsort]
  exact Stage.pairwise_sorted_of_comparable hfield (h field order hsorting) order

/-! ## When a second run changes nothing -/

theorem kept_eq_self (h : ∀ r ∈ records, r.satisfies q.conditions.entries) :
    q.kept records = records := List.filter_eq_self.mpr h

theorem rows_rows_of_ordered
    (hsatisfies : ∀ row ∈ q.rows records, row.satisfies q.conditions.entries)
    (hordered : q.Ordered (q.rows records)) : q.rows (q.rows records) = q.rows records := by
  rw [rows, kept_eq_self hsatisfies, sorted_of_ordered hordered,
    Stage.limit_eq_self (fits_rows q records)]
  exact map_view_of_subset_rows fun _ h => h

/-- A second run that keeps the number of rows keeps all of them. -/
theorem kept_rows_of_rows_rows (h : q.rows (q.rows records) = q.rows records) :
    q.kept (q.rows records) = q.rows records := by
  have hsub : (q.kept (q.rows records)).Sublist (q.rows records) := List.filter_sublist
  apply hsub.eq_of_length_le
  calc (q.rows records).length = (q.rows (q.rows records)).length := by rw [h]
    _ = (Stage.limit q.limit (Stage.sorted q.sort (q.kept (q.rows records)))).length :=
        List.length_map _
    _ ≤ (Stage.sorted q.sort (q.kept (q.rows records))).length :=
        (Stage.limit_sublist _ _).length_le
    _ = (q.kept (q.rows records)).length := (Stage.sorted_perm _ _).length_eq

theorem rows_rows_iff (hkeys : q.ComparableKeys (q.rows records)) :
    q.rows (q.rows records) = q.rows records ↔
      (∀ row ∈ q.rows records, row.satisfies q.conditions.entries) ∧
        q.Ordered (q.rows records) := by
  constructor
  · intro h
    have hkept := kept_rows_of_rows_rows h
    have hperm := Stage.sorted_perm q.sort (q.rows records)
    have hfits : Stage.Fits q.limit (Stage.sorted q.sort (q.rows records)) := by
      intro i hn hi
      rw [hperm.length_eq]
      exact fits_rows q records i hn hi
    have hsorted : Stage.sorted q.sort (q.rows records) = q.rows records := by
      rw [rows, hkept, Stage.limit_eq_self hfits,
        map_view_of_subset_rows fun r hr => hperm.mem_iff.mp hr] at h
      exact h
    refine ⟨List.filter_eq_self.mp hkept, ?_⟩
    rw [← hsorted]
    exact ordered_sorted hkeys
  · rintro ⟨hsatisfies, hordered⟩
    exact rows_rows_of_ordered hsatisfies hordered

/-! ## Fields that show what the records hold -/

/-- All fields that the query names show in the row of the record what the record holds there. -/
def Shows (q : Query) (r : Record) : Prop :=
  ∀ name ∈ q.named, (Stage.view q.fields r).get name = r.get name

theorem shows_of_fields {r : Record}
    (h : ∀ names, q.fields = some names → names ≠ [] → ∀ name ∈ q.named,
      name ∈ names ∧ ∀ s, Stage.reserved r.file name = some s → r.get name = .text s) :
    q.Shows r := by
  intro name hname
  match hfields : q.fields with
  | none => rfl
  | some [] => rfl
  | some (n :: ns) =>
    obtain ⟨hmem, hreserved⟩ := h (n :: ns) hfields (List.cons_ne_nil n ns) name hname
    exact (Stage.get_project_of_mem hmem).trans (Stage.projected_eq_get hreserved)

theorem mem_named_of_mem_conditions {e : String × Condition} (h : e ∈ q.conditions.entries) :
    e.1 ∈ q.named := List.mem_append_left _ (List.mem_map_of_mem h)

theorem mem_named_of_sorting? {field : String} {order : SortOrder}
    (h : q.sorting? = some (field, order)) : field ∈ q.named := by
  rw [named, h]
  exact List.mem_append_right _ List.mem_cons_self

theorem satisfies_of_mem_rows (hfree : q.PredicateFree) (hshows : ∀ r ∈ q.kept records, q.Shows r)
    {row : Record} (h : row ∈ q.rows records) : row.satisfies q.conditions.entries := by
  obtain ⟨r, hr, rfl⟩ := exists_of_mem_rows h
  rw [Record.satisfies_congr hfree fun e he => hshows r hr e.1 (mem_named_of_mem_conditions he)]
  exact (List.mem_filter.mp hr).2

/-- The rows stand in the places of sorted records, whose keys they show. -/
theorem exists_shown_rows (hshows : ∀ r ∈ q.kept records, q.Shows r) :
    ∃ found : List Record, found.Sublist (Stage.sorted q.sort (q.kept records)) ∧
      q.rows records = found.map (Stage.view q.fields) ∧
      ∀ r ∈ found, r ∈ q.kept records ∧ ∀ field order, q.sorting? = some (field, order) →
        (Stage.view q.fields r).get field = r.get field := by
  have hsub := Stage.limit_sublist q.limit (Stage.sorted q.sort (q.kept records))
  refine ⟨_, hsub, rfl, fun r hr => ?_⟩
  have hkept := (Stage.sorted_perm _ _).mem_iff.mp (hsub.mem hr)
  exact ⟨hkept, fun field order hsorting =>
    hshows r hkept field (mem_named_of_sorting? hsorting)⟩

theorem ordered_rows (hkeys : q.ComparableKeys (q.kept records))
    (hshows : ∀ r ∈ q.kept records, q.Shows r) : q.Ordered (q.rows records) := by
  intro field order hsorting
  obtain ⟨found, hsub, hrows, hshown⟩ := exists_shown_rows hshows
  rw [hrows, List.pairwise_map]
  refine ((ordered_sorted hkeys field order hsorting).sublist hsub).imp_of_mem fun hr hs hle => ?_
  rw [(hshown _ hr).2 field order hsorting, (hshown _ hs).2 field order hsorting]
  exact hle

theorem comparableKeys_rows (hkeys : q.ComparableKeys (q.kept records))
    (hshows : ∀ r ∈ q.kept records, q.Shows r) : q.ComparableKeys (q.rows records) := by
  intro field order hsorting
  obtain ⟨found, -, hrows, hshown⟩ := exists_shown_rows hshows
  rw [hrows]
  refine (hkeys field order hsorting).mono ?_
  rw [List.forall_mem_map, List.forall_mem_map]
  intro r hr
  obtain ⟨hkept, hget⟩ := hshown r hr
  rw [hget field order hsorting]
  exact List.mem_map_of_mem hkept

/-- A second run of a query without predicates changes nothing if and only if the rows satisfy the
conditions by what they show and stand in order by what they show. That is so if all fields are
shown, or if the fields shown include all that the query names and the records hold what their files
say, where files say something under these names. -/
theorem run_run (hfree : q.PredicateFree) (hkeys : q.ComparableKeys (q.kept records)) :
    (q.Answers records → ∃ rows, q.run records = .ok rows) ∧
    ∀ rows, q.run records = .ok rows →
      (q.ComparableKeys rows → (q.run rows = .ok rows ↔
        (∀ row ∈ rows, row.satisfies q.conditions.entries) ∧ q.Ordered rows)) ∧
      ((∀ names, q.fields = some names → names ≠ [] → ∀ name ∈ q.named,
          name ∈ names ∧ ∀ r ∈ q.kept records, ∀ s, Stage.reserved r.file name = some s →
            r.get name = .text s) →
        q.run rows = .ok rows ∧ (∀ row ∈ rows, row.satisfies q.conditions.entries) ∧
          q.Ordered rows) := by
  refine ⟨fun hanswers => ⟨_, run_eq_ok hanswers hkeys.sortable⟩, fun rows hrows => ?_⟩
  obtain ⟨-, -, rfl⟩ := run_eq_ok_iff.mp hrows
  refine ⟨fun hshown => ?_, fun hfields => ?_⟩
  · rw [← rows_rows_iff hshown]
    constructor
    · intro hagain
      exact (run_eq_ok_iff.mp hagain).2.2.symm
    · intro hagain
      have hsatisfies := ((rows_rows_iff hshown).mp hagain).1
      rw [run_of_satisfies hsatisfies hshown, hagain]
  · have hshows : ∀ r ∈ q.kept records, q.Shows r := fun r hr =>
      shows_of_fields fun names hnames hne name hname =>
        ⟨(hfields names hnames hne name hname).1, (hfields names hnames hne name hname).2 r hr⟩
    have hsatisfies : ∀ row ∈ q.rows records, row.satisfies q.conditions.entries :=
      fun row hrow => satisfies_of_mem_rows hfree hshows hrow
    have hordered := ordered_rows hkeys hshows
    rw [run_of_satisfies hsatisfies (comparableKeys_rows hkeys hshows),
      rows_rows_of_ordered hsatisfies hordered]
    exact ⟨rfl, hsatisfies, hordered⟩

/-- A query for a title and a number. One of the files says the title, the other one says nothing. -/
theorem run_run_of_numbers :
    let records : List Record :=
      [⟨{ path := some "b.md", title := some "B" }, .ofList [("n", .int 2), ("title", .text "B")]⟩,
        ⟨{ path := some "a.md" }, .ofList [("n", .int 1), ("title", .text "B")]⟩,
        ⟨{ path := some "c.md", title := some "c" }, .ofList [("n", .int 0)]⟩]
    let q : Query :=
      { conditions := .ofList [("title", .literal (.text "B"))]
        sort := some ⟨some "n", .ascending⟩
        limit := some 5
        fields := some ["title", "n"] }
    q.PredicateFree ∧ q.ComparableKeys (q.kept records) ∧
      (∀ names, q.fields = some names → names ≠ [] → ∀ name ∈ q.named,
        name ∈ names ∧ ∀ r ∈ q.kept records, ∀ s, Stage.reserved r.file name = some s →
          r.get name = .text s) ∧
      ∃ rows, q.run records = .ok rows ∧ q.run rows = .ok rows ∧ q.Ordered rows := by
  intro records q
  have hfree : q.PredicateFree := by
    intro e he
    have he : e = ("title", .literal (.text "B")) := List.mem_singleton.mp he
    rw [he]
    rfl
  have hkept : q.kept records = records.take 2 := rfl
  have hkeys : q.ComparableKeys (q.kept records) := by
    intro field order hsorting
    cases hsorting
    rw [hkept]
    apply Value.Kind.number.comparable
    · exact Value.areWritable_iff.mp (by decide)
    · intro v hv _
      simp only [records, List.take_succ_cons, List.take_zero, List.map_cons, List.map_nil,
        List.mem_cons, List.not_mem_nil, or_false] at hv
      rcases hv with rfl | rfl
      · exact Or.inl (.number (.int 2))
      · exact Or.inl (.number (.int 1))
  have hfields : ∀ names, q.fields = some names → names ≠ [] → ∀ name ∈ q.named,
      name ∈ names ∧ ∀ r ∈ q.kept records, ∀ s, Stage.reserved r.file name = some s →
        r.get name = .text s := by
    intro names hnames _ name hname
    cases hnames
    have hnamed : name ∈ ["title", "n"] := hname
    simp only [List.mem_cons, List.not_mem_nil, or_false] at hnamed
    rw [hkept]
    simp only [records, List.take_succ_cons, List.take_zero, List.mem_cons, List.not_mem_nil,
      or_false]
    rcases hnamed with rfl | rfl
    · refine ⟨Or.inl rfl, ?_⟩
      rintro r (rfl | rfl) s hs
      · cases hs
        rfl
      · cases hs
    · refine ⟨Or.inr rfl, ?_⟩
      rintro r (rfl | rfl) s hs <;> cases hs
  have hanswers : q.Answers records := fun r _ => Record.answers_of_not_isPredicate hfree
    fun e he => by
      have he : e = ("title", .literal (.text "B")) := List.mem_singleton.mp he
      rw [he]
      rfl
  obtain ⟨hfound, hruns⟩ := run_run hfree hkeys
  obtain ⟨rows, hrun⟩ := hfound hanswers
  obtain ⟨hagain, -, hordered⟩ := (hruns rows hrun).2 hfields
  exact ⟨hfree, hkeys, hfields, rows, hrun, hagain, hordered⟩

end Query

end NoteQuery
