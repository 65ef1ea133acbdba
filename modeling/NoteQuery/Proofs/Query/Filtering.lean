import NoteQuery.Proofs.Value.Comparability
import NoteQuery.Query.Stages

/-!
# What a filter keeps

A condition accepts a record if its test has an answer and the answer counts as true. A filter whose
tests all have answers keeps the records that every condition accepts, in their order. What the test of
a condition other than a predicate comes to depends on the value of its field alone, and it has an
answer if that value and its target can be written.

* `filter_eq_ok`: the records that are kept.
* `filter_singleton_eq_ok`, `filter_singleton_eq_error`: the two results for a single condition.
* `Condition.test_eq`, `Record.satisfies_congr`: conditions other than predicates.
* `Operator.answers_of_isWritable`: values that can be written.
-/

namespace NoteQuery

namespace Operator

/-- The operators that need no texts. -/
def needsNoText (op : Operator) : Bool :=
  op == eq || op == ne || op == within || op == .exists || op == notExists

theorem answers_of_needsNoText {op : Operator} (h : op.needsNoText) (value target : Value) :
    op.answers value target := by
  cases op <;> first | rfl | cases h

theorem answers_of_isWritable (op : Operator) {value target : Value} (hvalue : value.isWritable)
    (htarget : target.isWritable) : op.answers value target := by
  cases op with
  | gt | gte | lt | lte => exact Value.isComparable_of_isWritable _ _ hvalue htarget
  | contains | notContains => cases value <;> first | rfl | exact htarget
  | _ => rfl

end Operator

namespace Condition

/-- Whether the test of the condition has an answer that counts as true. -/
def accepts (c : Condition) (r : Record) (field : String) : Bool :=
  match c.test r field with
  | .ok answer => answer.isTruthy
  | .error _ => false

def isPredicate : Condition → Bool
  | predicate _ => true
  | _ => false

/-- Whether a literal or an operator holds of a value. -/
def holds : Condition → Value → Bool
  | literal expected, v => literalHolds v expected
  | operator op target, v => op.holds v target
  | predicate _, _ => false

/-- Whether a literal or an operator has an answer for a value. -/
def answers : Condition → Value → Bool
  | literal _, _ => true
  | operator op target, v => op.answers v target
  | predicate _, _ => false

/-- The target of the condition, if it is an operator, can be written. -/
def isWritable : Condition → Bool
  | operator _ target => target.isWritable
  | _ => true

variable {c : Condition} {r s : Record} {field : String}

theorem test_eq (h : c.isPredicate = false) (r : Record) (field : String) :
    c.test r field = if c.answers (r.get field) then .ok (.bool (c.holds (r.get field)))
      else .error .hugeInteger := by
  cases c with
  | predicate p => cases h
  | _ => rfl

theorem test_eq_ok (h : c.isPredicate = false) (hanswers : c.answers (r.get field)) :
    c.test r field = .ok (.bool (c.holds (r.get field))) := by
  rw [test_eq h, if_pos hanswers]

/-- Without a predicate, a test sees its own field only. -/
theorem test_congr (h : c.isPredicate = false) (hget : r.get field = s.get field) :
    c.test r field = c.test s field := by
  rw [test_eq h, test_eq h, hget]

theorem accepts_eq (h : c.isPredicate = false) (r : Record) (field : String) :
    c.accepts r field = (c.answers (r.get field) && c.holds (r.get field)) := by
  rw [accepts, test_eq h]
  cases c.answers (r.get field) <;> rfl

theorem answers_of_isWritable (h : c.isPredicate = false) (hc : c.isWritable) {v : Value}
    (hv : v.isWritable) : c.answers v := by
  cases c with
  | literal expected => rfl
  | operator op target => exact op.answers_of_isWritable hv hc
  | predicate p => cases h

end Condition

namespace Record

/-- Whether every condition accepts the record under its field. -/
def satisfies (r : Record) (conditions : List (String × Condition)) : Bool :=
  conditions.all fun e => e.2.accepts r e.1

/-- The test of every condition has an answer for the record. -/
def Answers (r : Record) (conditions : List (String × Condition)) : Prop :=
  ∀ e ∈ conditions, ∃ answer, e.2.test r e.1 = .ok answer

variable {conditions : List (String × Condition)} {r s : Record}

theorem satisfies_iff :
    r.satisfies conditions ↔ ∀ e ∈ conditions, e.2.accepts r e.1 := List.all_eq_true

theorem answers_of_not_isPredicate (h : ∀ e ∈ conditions, e.2.isPredicate = false)
    (hanswers : ∀ e ∈ conditions, e.2.answers (r.get e.1)) : r.Answers conditions :=
  fun e he => ⟨_, Condition.test_eq_ok (h e he) (hanswers e he)⟩

/-- Conditions that accept the record have answers for it. -/
theorem answers_of_satisfies (h : r.satisfies conditions) : r.Answers conditions := by
  intro e he
  have haccepts := satisfies_iff.mp h e he
  rw [Condition.accepts] at haccepts
  cases htest : e.2.test r e.1 with
  | ok answer => exact ⟨answer, rfl⟩
  | error error =>
    rw [htest] at haccepts
    cases haccepts

/-- Conditions that are no predicates have answers where they and the fields can be written. -/
theorem answers_of_isWritable (h : ∀ e ∈ conditions, e.2.isPredicate = false)
    (hconditions : ∀ e ∈ conditions, e.2.isWritable)
    (hr : ∀ e ∈ conditions, (r.get e.1).isWritable) : r.Answers conditions :=
  answers_of_not_isPredicate h fun e he =>
    Condition.answers_of_isWritable (h e he) (hconditions e he) (hr e he)

/-- Records with the same values under the fields of the conditions satisfy the same conditions. -/
theorem satisfies_congr (h : ∀ e ∈ conditions, e.2.isPredicate = false)
    (hget : ∀ e ∈ conditions, r.get e.1 = s.get e.1) :
    r.satisfies conditions = s.satisfies conditions := by
  have haccepts : ∀ e ∈ conditions, e.2.accepts r e.1 = e.2.accepts s e.1 := by
    intro e he
    rw [Condition.accepts, Condition.accepts, Condition.test_congr (h e he) (hget e he)]
  rw [Bool.eq_iff_iff, satisfies_iff, satisfies_iff]
  exact forall₂_congr fun e he => by rw [haccepts e he]

/-- Records for which all tests come to the same meet the same conditions. -/
theorem meets_congr {conditions : List (String × Input)}
    (h : ∀ e ∈ conditions, e.2.test r e.1 = e.2.test s e.1) :
    r.meets conditions = s.meets conditions := by
  induction conditions with
  | nil => rfl
  | cons e es ih =>
    have ih := ih fun f hf => h f (List.mem_cons_of_mem _ hf)
    rw [meets, meets, h e List.mem_cons_self, ih]

theorem meets_eq_ok (h : r.Answers conditions) :
    r.meets (conditions.map fun e => (e.1, .condition e.2)) = .ok (r.satisfies conditions) := by
  induction conditions with
  | nil => rfl
  | cons e es ih =>
    have ih := ih fun f hf => h f (List.mem_cons_of_mem _ hf)
    obtain ⟨answer, hanswer⟩ := h e List.mem_cons_self
    have htest : Input.test (.condition e.2) r e.1 = .ok answer := hanswer
    have haccepts : e.2.accepts r e.1 = answer.isTruthy := by rw [Condition.accepts, hanswer]
    rw [List.map_cons, meets, htest, satisfies, List.all_cons, haccepts]
    dsimp only
    cases answer.isTruthy with
    | false => rfl
    | true => exact ih

end Record

namespace Stage

/-- Conditions whose tests all have answers keep the records that satisfy them, in their order. -/
theorem filter_eq_ok {conditions : List (String × Condition)} {records : List Record}
    (h : ∀ r ∈ records, r.Answers conditions) :
    filter (conditions.map fun e => (e.1, .condition e.2)) records =
      .ok (records.filter fun r => r.satisfies conditions) := by
  induction records with
  | nil => rfl
  | cons r rs ih =>
    have ih := ih fun s hs => h s (List.mem_cons_of_mem _ hs)
    rw [filter, Record.meets_eq_ok (h r List.mem_cons_self), ih, List.filter_cons]

/-! ## A single condition -/

section Single

variable {c : Condition} {field : String} {records : List Record}

/-- A single condition that is no predicate keeps the records of which it holds, if it has an answer for
all of them. -/
theorem filter_singleton_eq_ok (h : c.isPredicate = false)
    (hanswers : ∀ r ∈ records, c.answers (r.get field)) :
    filter [(field, .condition c)] records =
      .ok (records.filter fun r => c.holds (r.get field)) := by
  have hall : ∀ r ∈ records, r.Answers [(field, c)] := fun r hr =>
    Record.answers_of_not_isPredicate (List.forall_mem_singleton.mpr h)
      (List.forall_mem_singleton.mpr (hanswers r hr))
  rw [show [(field, Input.condition c)] = [(field, c)].map fun e => (e.1, .condition e.2) from rfl,
    filter_eq_ok hall]
  congr 1
  refine List.filter_congr fun r hr => ?_
  rw [Record.satisfies, List.all_cons, List.all_nil, Bool.and_true, Condition.accepts_eq h,
    hanswers r hr, Bool.true_and]

/-- If it has no answer for one of them, the filter fails. -/
theorem filter_singleton_eq_error (h : c.isPredicate = false)
    (hanswers : ∃ r ∈ records, c.answers (r.get field) = false) :
    filter [(field, .condition c)] records = .error .hugeInteger := by
  have hmeets : ∀ r : Record, r.meets [(field, .condition c)] =
      if c.answers (r.get field) then .ok (c.holds (r.get field)) else .error .hugeInteger := by
    intro r
    have htest : Input.test (.condition c) r field = c.test r field := rfl
    rw [Record.meets, htest, Condition.test_eq h]
    cases c.answers (r.get field) with
    | false => rfl
    | true => cases c.holds (r.get field) <;> rfl
  induction records with
  | nil => simp at hanswers
  | cons r rs ih =>
    rw [filter, hmeets r]
    cases hr : c.answers (r.get field) with
    | false => rfl
    | true =>
      obtain ⟨s, hs, hno⟩ := hanswers
      rcases List.mem_cons.mp hs with rfl | hs
      · rw [hr] at hno
        cases hno
      · rw [ih ⟨s, hs, hno⟩]
        rfl

end Single

end Stage

end NoteQuery
