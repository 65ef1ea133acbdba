import NoteQuery.Proofs.Query.Filtering
import NoteQuery.Proofs.Value.Agreement

/-!
# The algebra of operators

Each operator has a test of its own. Yet ten of the eleven come in pairs of which one holds just
where the other does not, so that a pair splits every list of records in two. Where a test needs the
text of an integer with too many digits, neither of the pair has an answer. The remaining operator asks
for equality with one of several values, and it asks the same as a list that contains a value, seen
from the other side.

* `Operator.Opposite`: the pairs. `Operator.Opposite.splits`: what they keep.
* `Condition.not_splits_all_records`: a search that splits nothing.
* `Condition.test_within_iff`: one of several values.
* `Condition.test_contains_eq_test_within`: the two sides of a list.
* `Condition.operator_algebra`: all of it.
-/

namespace NoteQuery

namespace Operator

/-! ## Opposite operators -/

/-- Operators of which one asks for what the other forbids. -/
inductive Opposite : Operator → Operator → Prop
  | equality : Opposite .eq .ne
  | existence : Opposite .exists .notExists
  | containment : Opposite .contains .notContains
  | atLeast : Opposite .gte .lt
  | more : Opposite .gt .lte

theorem holdsContains_of_isNull {value : Value} (h : value.isNull) (target : Value) :
    holdsContains value target = false := by
  rw [Value.eq_null h]
  rfl

theorem Opposite.holds_eq_not {op other : Operator} (h : Opposite op other)
    (value target : Value) : other.holds value target = !op.holds value target := by
  cases h with
  | equality => rfl
  | existence => exact (Bool.not_not _).symm
  | containment =>
    rw [holds, holds]
    cases hnull : value.isNull with
    | true => rw [holdsContains_of_isNull hnull]; rfl
    | false => rfl
  | atLeast | more =>
    rw [holds, holds]
    cases value.order target <;> rfl

theorem Opposite.answers_eq {op other : Operator} (h : Opposite op other)
    (value target : Value) : other.answers value target = op.answers value target := by
  cases h <;> rfl

end Operator

namespace Condition

/-- Of every list of records one condition keeps some and the other keeps the rest, both in order, if
it has an answer for all of them. If it has none for one of them, both conditions fail. -/
def Splits (field : String) (c other : Condition) : Prop :=
  ∀ records : List Record,
    ((∀ r ∈ records, c.answers (r.get field)) → ∃ keeps : Record → Bool,
      Stage.filter [(field, .condition c)] records = .ok (records.partition keeps).1 ∧
      Stage.filter [(field, .condition other)] records = .ok (records.partition keeps).2) ∧
    ((∃ r ∈ records, c.answers (r.get field) = false) →
      Stage.filter [(field, .condition c)] records = .error .hugeInteger ∧
      Stage.filter [(field, .condition other)] records = .error .hugeInteger)

/-- An integer with too many digits cannot be searched for in a text, nor be missed there. -/
theorem not_splits_all_records :
    ¬ ∀ (op other : Operator), op.Opposite other → ∀ (field : String) (target : Value)
      (records : List Record), ∃ keeps : Record → Bool,
      Stage.filter [(field, .condition (.operator op target))] records =
          .ok (records.partition keeps).1 ∧
        Stage.filter [(field, .condition (.operator other target))] records =
          .ok (records.partition keeps).2 := by
  intro h
  let record : Record := ⟨{}, .ofList [("t", .text "hello")]⟩
  let c : Condition := .operator .contains .firstHuge
  have hanswers : c.answers (record.get "t") = false := Value.isWritable_firstHuge
  have hfails : Stage.filter [("t", .condition c)] [record] = .error .hugeInteger :=
    Stage.filter_singleton_eq_error rfl ⟨record, List.mem_singleton_self record, hanswers⟩
  obtain ⟨keeps, hkept, -⟩ := h .contains .notContains .containment "t" .firstHuge [record]
  rw [hfails] at hkept
  cases hkept

theorem splits_of_not {c other : Condition} (hc : c.isPredicate = false)
    (hother : other.isPredicate = false) (hanswers : ∀ v, other.answers v = c.answers v)
    (hholds : ∀ v, other.holds v = !c.holds v) (field : String) : Splits field c other := by
  intro records
  refine ⟨fun hall => ⟨fun r => c.holds (r.get field), ?_, ?_⟩, fun hsome => ⟨?_, ?_⟩⟩
  · rw [Stage.filter_singleton_eq_ok hc hall, List.partition_eq_filter_filter]
  · have hall' : ∀ r ∈ records, other.answers (r.get field) := fun r hr =>
      (hanswers _).trans (hall r hr)
    rw [Stage.filter_singleton_eq_ok hother hall', List.partition_eq_filter_filter]
    congr 1
    exact List.filter_congr fun r _ => hholds (r.get field)
  · exact Stage.filter_singleton_eq_error hc hsome
  · obtain ⟨r, hr, hno⟩ := hsome
    exact Stage.filter_singleton_eq_error hother ⟨r, hr, (hanswers _).trans hno⟩

end Condition

/-- Opposite operators with the same target split every list of records. -/
theorem Operator.Opposite.splits {op other : Operator} (h : Opposite op other) (field : String)
    (target : Value) :
    Condition.Splits field (.operator op target) (.operator other target) := by
  refine Condition.splits_of_not rfl rfl (fun v => ?_) (fun v => ?_) field
  · exact h.answers_eq v target
  · exact h.holds_eq_not v target

/-! ## One of several values -/

namespace Condition

theorem test_within_iff {r : Record} {field : String} {items : List Value} :
    (ofOperator .within (.list items)).test r field = .ok (.bool true) ↔
      ∃ x ∈ items, (ofOperator .eq x).test r field = .ok (.bool true) := by
  simp [ofOperator, test, Operator.answers, Operator.holds, Operator.holdsWithin, Value.normalize,
    Value.normalizeAll_eq_map]

/-- A list contains a target if and only if the target is one of its items. -/
theorem test_contains_eq_test_within {r s : Record} {field otherField : String}
    {items : List Value} (hr : r.get field = .list items) (hitems : (Value.list items).IsData)
    (ht : (s.get otherField).IsData) :
    (ofOperator .contains (s.get otherField)).test r field =
      (ofOperator .within (r.get field)).test s otherField := by
  have hsides : ∀ v : Value, v.agrees (s.get otherField) = (s.get otherField).agrees v :=
    fun v => (ht.agrees_comm v).symm
  have hcontains : Operator.contains.holds (.list items) (s.get otherField) =
      Operator.within.holds (s.get otherField) (.list items) := by
    rw [Operator.holds, Operator.holds, Operator.holdsContains, Operator.holdsWithin]
    simp only [hsides]
  rw [ofOperator, ofOperator, ht.normalize_eq, hr, hitems.normalize_eq, test, test, hr, hcontains]
  rfl

/-- Whatever the field, the target and the records: of the records `eq` keeps some and `ne` the rest, and
so do `exists` and `not_exists`, and also `contains` and `not_contains`, `gte` and `lt`, `gt` and
`lte` if they have answers; else both of a pair fail. There are answers where no text is needed, and
where the values of the fields and the target can be written. A value is in a list just if it equals
an item of it. And a field that holds a list contains a target just if a field with the target as its
value is in that list. -/
theorem operator_algebra (field : String) (target : Value) :
    (∀ op other : Operator, op.Opposite other →
      Splits field (.operator op target) (.operator other target) ∧
        Splits field (ofOperator op target) (ofOperator other target)) ∧
    (∀ (op : Operator) (value : Value), op.needsNoText → op.answers value target) ∧
    (∀ (op : Operator) (value : Value), value.isWritable → target.isWritable →
      op.answers value target ∧ op.answers value target.normalize) ∧
    (∀ (r : Record) (items : List Value),
      (ofOperator .within (.list items)).test r field = .ok (.bool true) ↔
        ∃ x ∈ items, (ofOperator .eq x).test r field = .ok (.bool true)) ∧
    (∀ (r s : Record) (otherField : String) (items : List Value),
      r.get field = .list items → (Value.list items).IsData → (s.get otherField).IsData →
      (ofOperator .contains (s.get otherField)).test r field =
        (ofOperator .within (r.get field)).test s otherField) :=
  ⟨fun _ _ h => ⟨h.splits field target, h.splits field target.normalize⟩,
    fun _ value h => Operator.answers_of_needsNoText h value target,
    fun op _ hvalue htarget => ⟨op.answers_of_isWritable hvalue htarget,
      op.answers_of_isWritable hvalue ((Value.isWritable_normalize target).trans htarget)⟩,
    fun _ _ => test_within_iff,
    fun _ _ _ _ hr hitems ht => test_contains_eq_test_within hr hitems ht⟩

/-- A list with a date, a float and `nan` contains the literal of the date, whose field in turn is in
the list. -/
theorem operator_algebra_of_date :
    let day : DateLiteral := ⟨2024, 2, 1, "2024-02-01"⟩
    let items : List Value := [.float .nan, .list [.int 3], .date day]
    let r : Record := ⟨{}, .ofList [("days", .list items)]⟩
    let s : Record := ⟨{}, .ofList [("day", .text day.raw)]⟩
    Operator.Opposite .gte .lt ∧ Splits "day" (.operator .gte (.date day)) (.operator .lt (.date day)) ∧
      (s.get "day").isWritable ∧ (Value.date day).isWritable ∧
      Operator.gte.answers (s.get "day") (.date day) ∧
      r.get "days" = .list items ∧ (Value.list items).IsData ∧ (s.get "day").IsData ∧
      (ofOperator .contains (.text day.raw)).test r "days" = .ok (.bool true) ∧
      (ofOperator .within (.list items)).test s "day" = .ok (.bool true) ∧
      ∃ x ∈ items, (ofOperator .eq x).test s "day" = .ok (.bool true) := by
  intro day items r s
  have hitems : (Value.list items).IsData := by
    refine .list (List.forall_mem_cons.mpr ⟨.nan, List.forall_mem_cons.mpr ⟨?_, ?_⟩⟩)
    · exact .list (List.forall_mem_singleton.mpr (.scalar rfl))
    · exact List.forall_mem_singleton.mpr (.scalar rfl)
  have hday : (s.get "day").IsData := .scalar rfl
  obtain ⟨hsplits, -, hwritable, hwithin, -⟩ := operator_algebra "day" (.date day)
  obtain ⟨-, -, -, -, hsides⟩ := operator_algebra "days" .null
  have hcontains : (ofOperator .contains (.text day.raw)).test r "days" = .ok (.bool true) := by
    rfl
  have hin : (ofOperator .within (.list items)).test s "day" = .ok (.bool true) := by
    rw [← hcontains]
    exact (hsides r s "day" items rfl hitems hday).symm
  exact ⟨.atLeast, (hsplits _ _ .atLeast).1, rfl, rfl,
    (hwritable .gte (s.get "day") rfl rfl).1, rfl, hitems, hday, hcontains, hin,
    (hwithin s items).mp hin⟩

end Condition

end NoteQuery
