import NoteQuery.Proofs.Query.FilterFailures
import NoteQuery.Proofs.Query.Filtering
import NoteQuery.Proofs.Query.Projection
import NoteQuery.Proofs.Query.Sorting

/-!
# Projections and the other stages

A projection changes what a record holds under the names of its file's identity, and nothing else
under the names that it keeps. So the first of two projections does not matter if it leaves the
second one its names, and a projection may come before or after sorting by another of its names, or
filtering by a condition on it.

* `sort_map`, `filter_map`: stages on records that are changed one by one.
* `select_select`: one projection after another.
* `projections_compose`: all of it.
-/

namespace NoteQuery

namespace Input

/-- What is supplied is no predicate. It may be no condition at all. -/
def PredicateFree (i : Input) : Prop := ∀ c, i.toCondition = .ok c → c.isPredicate = false

variable {i : Input} {r s : Record} {field : String}

/-- Without a predicate, a test sees its own field only. -/
theorem test_congr (hfree : i.PredicateFree) (hget : r.get field = s.get field) :
    i.test r field = i.test s field := by
  cases hc : i.toCondition with
  | error e => rw [test, test, hc]
  | ok c =>
    rw [test_of_toCondition hc, test_of_toCondition hc, Condition.test_congr (hfree c hc) hget]

end Input

namespace Stage

variable {names others : List String} {field : String} {records : List Record}
  {f : Record → Record}

/-! ## Records that are changed one by one -/

theorem sorted_map (order : SortOrder) (hget : ∀ r ∈ records, (f r).get field = r.get field) :
    sorted (some ⟨some field, order⟩) (records.map f) =
      (sorted (some ⟨some field, order⟩) records).map f := by
  by_cases hfield : field = ""
  · have hsorted : ∀ rs, sorted (some ⟨some field, order⟩) rs = rs := fun rs => if_pos hfield
    rw [hsorted, hsorted]
  · rw [sorted_eq_mergeSort hfield, sorted_eq_mergeSort hfield, List.map_mergeSort]
    intro r hr s hs
    rw [hget r hr, hget s hs]

/-- Sorting compares the keys of the records and nothing else. -/
theorem sort_map (order : SortOrder) (hget : ∀ r ∈ records, (f r).get field = r.get field) :
    sort (some ⟨some field, order⟩) (records.map f) =
      (sort (some ⟨some field, order⟩) records).map (List.map f) := by
  have hkeys : (records.map f).map (fun r => r.get field) = records.map fun r => r.get field := by
    rw [List.map_map]
    exact List.map_congr_left hget
  rw [sort, sort, sortable_congr order hkeys, sorted_map order hget]
  cases sortable (some ⟨some field, order⟩) records <;> rfl

theorem filter_map {conditions : List (String × Input)}
    (hmeets : ∀ r ∈ records, (f r).meets conditions = r.meets conditions) :
    filter conditions (records.map f) = (filter conditions records).map (List.map f) := by
  induction records with
  | nil => rfl
  | cons r rs ih =>
    have ih := ih fun s hs => hmeets s (List.mem_cons_of_mem _ hs)
    rw [List.map_cons, filter, filter, hmeets r List.mem_cons_self, ih]
    cases r.meets conditions with
    | error e => rfl
    | ok keep =>
      cases filter conditions rs with
      | error e => rfl
      | ok kept => cases keep <;> rfl

/-! ## Projections -/

theorem select_of_ne_nil (h : names ≠ []) (records : List Record) :
    select (some names) records = records.map (project names) := by
  rw [select_eq_map]
  exact List.map_congr_left fun r _ => view_of_ne_nil h r

theorem get_project_of_notMem (hmem : field ∈ names) (hfield : field ∉ identityNames) (r : Record) :
    (project names r).get field = r.get field := by
  rw [get_project_of_mem hmem, projected_of_notMem hfield]

theorem select_select (hothers : others ≠ []) (hsub : ∀ name ∈ others, name ∈ names)
    (records : List Record) :
    select (some others) (select (some names) records) = select (some others) records := by
  have hnames : names ≠ [] := by
    intro hnil
    obtain ⟨name, hname⟩ := List.exists_mem_of_ne_nil others hothers
    have hmem := hsub name hname
    rw [hnil] at hmem
    cases hmem
  rw [select_of_ne_nil hnames, select_of_ne_nil hothers, select_of_ne_nil hothers, List.map_map]
  exact List.map_congr_left fun r _ => project_project hsub r

theorem select_eq_map_project (hnames : names ≠ []) :
    select (some names) = List.map (project names) :=
  funext (select_of_ne_nil hnames)

theorem sort_select (hmem : field ∈ names) (hfield : field ∉ identityNames) (order : SortOrder)
    (records : List Record) :
    sort (some ⟨some field, order⟩) (select (some names) records) =
      (sort (some ⟨some field, order⟩) records).map (select (some names)) := by
  rw [select_eq_map_project (List.ne_nil_of_mem hmem)]
  exact sort_map order fun r _ => get_project_of_notMem hmem hfield r

theorem filter_select {i : Input} (hmem : field ∈ names) (hfield : field ∉ identityNames)
    (hfree : i.PredicateFree) (records : List Record) :
    filter [(field, i)] (select (some names) records) =
      (filter [(field, i)] records).map (select (some names)) := by
  rw [select_eq_map_project (List.ne_nil_of_mem hmem)]
  apply filter_map
  intro r _
  apply Record.meets_congr
  intro e he
  obtain rfl : e = (field, i) := List.mem_singleton.mp he
  exact Input.test_congr hfree (get_project_of_notMem hmem hfield r)

/-- Projecting to names that a first projection has left is projecting to them at once. Sorting by
one of the names of a projection, or filtering by a condition on it, comes to the same before and
after the projection, unless the name stands for a part of the identity of the file. -/
theorem projections_compose (hothers : others ≠ []) (hsub : ∀ name ∈ others, name ∈ names)
    (records : List Record) :
    (select (some others) (select (some names) records) = select (some others) records ∧
      (select (some others) records).map Record.file = records.map Record.file ∧
      ∀ row ∈ select (some others) records, row.fields.keys = others.eraseDups) ∧
    select (some names) (select (some names) records) = select (some names) records ∧
    ∀ field ∈ names, field ∉ identityNames →
      (∀ order, sort (some ⟨some field, order⟩) (select (some names) records) =
        (sort (some ⟨some field, order⟩) records).map (select (some names))) ∧
      ∀ i : Input, i.PredicateFree →
        filter [(field, i)] (select (some names) records) =
          (filter [(field, i)] records).map (select (some names)) := by
  refine ⟨⟨select_select hothers hsub records, ?_, ?_⟩, ?_, ?_⟩
  · rw [select_eq_map, List.map_map]
    exact List.map_congr_left fun r _ => view_file _ r
  · intro row hrow
    rw [select_of_ne_nil hothers] at hrow
    obtain ⟨r, -, rfl⟩ := List.mem_map.mp hrow
    exact keys_project others r
  · rw [select_eq_map, select_eq_map, List.map_map]
    exact List.map_congr_left fun r _ => view_view _ r
  · intro field hmem hfield
    exact ⟨fun order => sort_select hmem hfield order records,
      fun i hfree => filter_select hmem hfield hfree records⟩

/-- The note has another title than its file, and the other record has no file. -/
theorem projections_compose_of_titles :
    let records : List Record :=
      [⟨{ title := some "a" }, .ofList [("title", .text "X"), ("type", .text "book")]⟩,
        ⟨{}, .ofList [("title", .text "Y")]⟩]
    let names := ["type", "title", "type"]
    let i : Input := .value (.text "book")
    (∀ name ∈ ["title"], name ∈ names) ∧ i.PredicateFree ∧
      select (some ["title"]) (select (some names) records) =
        [⟨{ title := some "a" }, .ofList [("title", .text "a")]⟩,
          ⟨{}, .ofList [("title", .text "Y")]⟩] ∧
      sort (some ⟨some "type", .descending⟩) (select (some names) records) =
        (sort (some ⟨some "type", .descending⟩) records).map (select (some names)) ∧
      filter [("type", i)] (select (some names) records) =
        .ok [⟨{ title := some "a" }, .ofList [("type", .text "book"), ("title", .text "a")]⟩] := by
  intro records names i
  have hsub : ∀ name ∈ ["title"], name ∈ names := by simp [names]
  have hfree : i.PredicateFree := by
    intro c hc
    obtain rfl : .literal (.text "book") = c := Except.ok.inj hc
    rfl
  obtain ⟨⟨hselect, -, -⟩, -, hstages⟩ :=
    projections_compose (List.cons_ne_nil "title" []) hsub records
  obtain ⟨hsort, hfilter⟩ := hstages "type" List.mem_cons_self (by simp [identityNames])
  refine ⟨hsub, hfree, ?_, hsort .descending, ?_⟩
  · rw [hselect]
    rfl
  · rw [hfilter i hfree]
    rfl

end Stage

end NoteQuery
