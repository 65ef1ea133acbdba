import NoteQuery.CommandLine.Run
import NoteQuery.Proofs.Note.WritableNotes
import NoteQuery.Proofs.OrderedMaps
import NoteQuery.Proofs.Query.FilterFailures

/-!
# Conditions on the command line

Every expression writes a condition on a field, but of several conditions on one field only the last
one is kept. So a record is found if it satisfies, for every field, the last condition on it. The
conditions before it count for nothing: `rating>=3` together with `rating<=5` finds a rating of 1. What
expressions look for can be written, as can the fields of notes, so that the conditions have answers.

* `conditions_eq_ok`: the conditions of expressions as a map.
* `Expression.isWritable_of_parse`, `answers_of_writes`: conditions that have answers.
* `not_filter_all_conditions`: a condition that is lost.
* `filter_last_conditions`: the records that are found.
-/

namespace NoteQuery

namespace Expression

/-- The conditions that the expressions write. -/
def Writes (expressions : List String) (conditions : List (String × Condition)) : Prop :=
  List.Forall₂ (fun expression condition => parse expression = .ok condition) expressions conditions

/-- What is written is no predicate, and its target can be written in turn. -/
theorem isWritable_of_read {expression field : String} {parts : Parts} {c : Condition}
    (h : parts.read expression = .ok (field, c)) : c.isPredicate = false ∧ c.isWritable := by
  unfold Parts.read at h
  split at h
  · dsimp only at h
    split at h
    · cases h
    · split at h
      · cases h
        exact ⟨rfl, rfl⟩
      · split at h
        · cases h
        · split at h
          · cases h
            exact ⟨rfl, Scalar.areWritable_map_read _⟩
          · cases h
            exact ⟨rfl, Scalar.isWritable_read _⟩
  · dsimp only at h
    split at h
    · cases h
      exact ⟨rfl, rfl⟩
    · split at h
      · cases h
      · cases h
        exact ⟨rfl, Scalar.isWritable_read _⟩

theorem isWritable_of_parse {expression : String} {condition : String × Condition}
    (h : parse expression = .ok condition) :
    condition.2.isPredicate = false ∧ condition.2.isWritable := by
  unfold parse at h
  split at h
  · exact isWritable_of_read h
  · cases h

end Expression

namespace CommandLine

open Expression

variable {expressions : List String} {written : List (String × Condition)}

theorem isWritable_of_writes (h : Writes expressions written) :
    ∀ e ∈ written, e.2.isPredicate = false ∧ e.2.isWritable := by
  induction h with
  | nil => simp
  | cons hparse _ ih =>
    intro e he
    rcases List.mem_cons.mp he with rfl | he
    · exact isWritable_of_parse hparse
    · exact ih e he

/-- Conditions that are written have answers for records whose fields can be written. -/
theorem answers_of_writes (h : Writes expressions written) {conditions : List (String × Condition)}
    (hsub : ∀ e ∈ conditions, e ∈ written) {r : Record}
    (hr : ∀ e ∈ conditions, (r.get e.1).isWritable) : r.Answers conditions :=
  Record.answers_of_isWritable (fun e he => (isWritable_of_writes h e (hsub e he)).1)
    (fun e he => (isWritable_of_writes h e (hsub e he)).2) hr

theorem conditions_eq_ok (h : Writes expressions written) (m : OrderedMap Condition) :
    conditions expressions m = .ok (written.foldl (fun m e => m.insert e.1 e.2) m) := by
  induction h generalizing m with
  | nil => rfl
  | cons hparse _ ih =>
    rw [conditions, hparse]
    exact ih _

/-- A rating of 1 passes `rating>=3` and `rating<=5`. -/
theorem not_filter_all_conditions :
    ¬ ∀ (expressions : List String) (written : List (String × Condition)) (records : List Record)
      (m : OrderedMap Condition), Writes expressions written →
      conditions expressions .empty = .ok m →
      Stage.filter (Query.inputs { conditions := m }) records =
        .ok (records.filter fun r => r.satisfies written) := by
  intro h
  let record : Record := ⟨{}, .ofList [("rating", .int 1)]⟩
  let atLeast : String × Condition := ("rating", .operator .gte (.int 3))
  let atMost : String × Condition := ("rating", .operator .lte (.int 5))
  have hwrites : Writes ["rating>=3", "rating<=5"] [atLeast, atMost] := .cons rfl (.cons rfl .nil)
  have hconditions : conditions ["rating>=3", "rating<=5"] .empty = .ok (.ofList [atMost]) := rfl
  have hanswers : ∀ r ∈ [record], r.Answers [atMost] := fun r hr =>
    answers_of_writes hwrites (by simp)
      (List.forall_mem_singleton.mpr (List.mem_singleton.mp hr ▸ by decide))
  have hfound : record.satisfies [atMost] = true := by decide +kernel
  have hlost : record.satisfies [atLeast, atMost] = false := by decide +kernel
  have hinputs : Query.inputs { conditions := .ofList [atMost] } =
      [atMost].map fun e => (e.1, .condition e.2) := rfl
  have hfilter := h _ _ [record] _ hwrites hconditions
  rw [hinputs, Stage.filter_eq_ok hanswers, Except.ok.injEq] at hfilter
  have hmem : record ∈ [record].filter fun r => r.satisfies [atMost] :=
    List.mem_filter.mpr ⟨List.mem_singleton_self record, hfound⟩
  rw [hfilter] at hmem
  exact absurd (List.mem_filter.mp hmem).2 (by simp [hlost])

theorem satisfies_ofList (r : Record) (written : List (String × Condition)) :
    r.satisfies (OrderedMap.ofList written).entries =
      r.satisfies (OrderedMap.lastEntries written) := by
  rw [Bool.eq_iff_iff, Record.satisfies_iff, Record.satisfies_iff]
  exact forall_congr' fun e => by rw [OrderedMap.mem_entries_ofList]

/-- A filter by these conditions has a result for records whose fields can be written, and if it has
one, it finds the records that satisfy the others. -/
def Finds (m : OrderedMap Condition) (conditions : List (String × Condition)) : Prop :=
  ∀ records : List Record,
    ((∀ r ∈ records, ∀ e ∈ conditions, (r.get e.1).isWritable) →
      ∃ kept, Stage.filter (Query.inputs { conditions := m }) records = .ok kept) ∧
    ∀ kept, Stage.filter (Query.inputs { conditions := m }) records = .ok kept →
      kept = records.filter fun r => r.satisfies conditions

theorem finds_lastEntries (h : Writes expressions written) :
    Finds (OrderedMap.ofList written) (OrderedMap.lastEntries written) := by
  intro records
  refine ⟨fun hwritable => ⟨_, Stage.filter_eq_ok fun r hr => ?_⟩, fun kept hkept => ?_⟩
  · refine answers_of_writes h (fun e he => ?_) fun e he =>
      hwritable r hr e (OrderedMap.mem_entries_ofList.mp he)
    obtain ⟨before, after, hwritten, -⟩ :=
      OrderedMap.mem_lastEntries_iff.mp (OrderedMap.mem_entries_ofList.mp he)
    exact hwritten ▸ List.mem_append_right _ List.mem_cons_self
  · have hsatisfies := Stage.eq_of_filter_eq_ok hkept
    simpa only [satisfies_ofList] using hsatisfies

/-- The records that are found satisfy the last condition on each field, and so all conditions if
no field has two. For notes there is always a result. -/
theorem filter_last_conditions (h : Writes expressions written) :
    ∃ m, conditions expressions .empty = .ok m ∧ Finds m (OrderedMap.lastEntries written) ∧
      ((written.map Prod.fst).Nodup → Finds m written) ∧
      ∀ notes : List (String × String), ∃ kept,
        Stage.filter (Query.inputs { conditions := m })
          (notes.map fun note => Document.record note.1 note.2) = .ok kept := by
  have hfinds := finds_lastEntries h
  refine ⟨OrderedMap.ofList written, conditions_eq_ok h .empty, hfinds, fun hnodup => ?_,
    fun notes => (hfinds _).1 ?_⟩
  · rwa [OrderedMap.lastEntries_eq_self hnodup] at hfinds
  · rw [List.forall_mem_map]
    exact fun note _ e _ => Document.isWritable_get note.1 note.2 e.1

theorem filter_last_conditions_of_three :
    let expressions := ["rating>=3", "type=book", "rating<=5"]
    let written : List (String × Condition) := [("rating", .operator .gte (.int 3)),
      ("type", .literal (.text "book")), ("rating", .operator .lte (.int 5))]
    Writes expressions written ∧ ∃ m, conditions expressions .empty = .ok m ∧
      ∀ notes : List (String × String),
        let records := notes.map fun note => Document.record note.1 note.2
        Stage.filter (Query.inputs { conditions := m }) records =
          .ok (records.filter fun r => r.satisfies
            [("type", .literal (.text "book")), ("rating", .operator .lte (.int 5))]) := by
  intro expressions written
  have hwrites : Writes expressions written := .cons rfl (.cons rfl (.cons rfl .nil))
  obtain ⟨m, hconditions, hfinds, -, hnotes⟩ := filter_last_conditions hwrites
  refine ⟨hwrites, m, hconditions, ?_⟩
  intro notes records
  obtain ⟨kept, hkept⟩ := hnotes notes
  rw [hkept, (hfinds records).2 kept hkept]
  rfl

end CommandLine

end NoteQuery
