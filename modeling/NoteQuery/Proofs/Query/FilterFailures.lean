import NoteQuery.Proofs.Query.Filtering
import NoteQuery.Proofs.Query.Sorting
import NoteQuery.Proofs.Query.SuppliedConditions

/-!
# How a filter fails

A condition of a record is reached if all conditions before it accept the record. A filter fails if
and only if a condition that is reached has no answer, and then with the error of the first one:
records come before conditions. If none fails, the filter keeps the records that every condition
accepts. A query that a caller supplies fails in the same way, but for operators that do not exist:
these are found when the query is checked, before any record is read. What is left are predicates, and
operators that need the text of an integer with too many digits.

* `Input.test_eq_error_iff`: the conditions that have no answer.
* `filter_eq_error_iff`, `filter_eq_ok_iff`: the two results of a filter.
* `filter_inputs_of_ofInput`: the filter of a query that is supplied.
* `filter_fails_first`: the whole account.
-/

namespace NoteQuery

/-! ## Tests without an answer -/

namespace Condition

/-- Of all conditions only operators and predicates fail. -/
theorem test_eq_error_iff {c : Condition} {r : Record} {field : String} {error : ConditionError} :
    c.test r field = .error error ↔
      (∃ op target, c = .operator op target ∧ op.answers (r.get field) target = false ∧
        error = .hugeInteger) ∨
      ∃ p message, c = .predicate p ∧ p.test (r.get field) r = .error message ∧
        error = .predicate message := by
  cases c with
  | literal expected => simp [test]
  | operator op target =>
    cases hanswers : op.answers (r.get field) target with
    | false => simpa [test, hanswers] using eq_comm
    | true => simp [test, hanswers]
  | predicate p =>
    cases hanswer : p.test (r.get field) r with
    | ok answer => simp [test, hanswer]
    | error message => simpa [test, hanswer] using eq_comm

end Condition

namespace Input

/-- Whether the test has an answer that counts as true. -/
def accepts (i : Input) (r : Record) (field : String) : Bool :=
  match i.test r field with
  | .ok answer => answer.isTruthy
  | .error _ => false

variable {i : Input} {r : Record} {field : String} {error : ConditionError}

theorem accepts_of_test_eq_error (h : i.test r field = .error error) :
    i.accepts r field = false := by rw [accepts, h]

theorem test_of_toCondition {c : Condition} (h : i.toCondition = .ok c) (r : Record)
    (field : String) : i.test r field = c.test r field := by rw [test, h]

theorem test_of_namesUnknown (h : i.NamesUnknown error) (r : Record) (field : String) :
    i.test r field = .error error := by
  rw [test, toCondition_eq_error_iff.mpr h]

/-- A test has no answer if its operator does not exist, if it needs a text that cannot be written, or
if it is a predicate that fails. -/
theorem test_eq_error_iff : i.test r field = .error error ↔
    i.NamesUnknown error ∨
      (∃ op target, i.toCondition = .ok (.operator op target) ∧
        op.answers (r.get field) target = false ∧ error = .hugeInteger) ∨
      ∃ p message, i.toCondition = .ok (.predicate p) ∧
        p.test (r.get field) r = .error message ∧ error = .predicate message := by
  rw [← toCondition_eq_error_iff, test]
  cases i.toCondition with
  | error e => simp
  | ok c => simpa using Condition.test_eq_error_iff

end Input

/-! ## One record -/

namespace Record

/-- The conditions before position `j` all accept the record. -/
def Reaches (r : Record) (conditions : List (String × Input)) (j : Nat) : Prop :=
  ∀ e ∈ conditions.take j, e.2.accepts r e.1

/-- The condition at position `j` is reached and has no answer. -/
def FailsAt (r : Record) (conditions : List (String × Input)) (j : Nat)
    (error : ConditionError) : Prop :=
  r.Reaches conditions j ∧ ∃ e, conditions[j]? = some e ∧ e.2.test r e.1 = .error error

variable {r : Record} {conditions : List (String × Input)} {e : String × Input}
  {error : ConditionError} {j : Nat}

theorem failsAt_zero :
    r.FailsAt (e :: conditions) 0 error ↔ e.2.test r e.1 = .error error := by
  simp [FailsAt, Reaches]

theorem failsAt_succ :
    r.FailsAt (e :: conditions) (j + 1) error ↔
      e.2.accepts r e.1 ∧ r.FailsAt conditions j error := by
  simp [FailsAt, Reaches, and_assoc]

theorem not_failsAt_nil : ¬ r.FailsAt [] j error := by simp [FailsAt]

/-- No condition behind one that fails is reached. -/
theorem FailsAt.unique {k : Nat} {other : ConditionError} (h : r.FailsAt conditions j error)
    (h' : r.FailsAt conditions k other) : j = k ∧ error = other := by
  induction conditions generalizing j k with
  | nil => exact absurd h not_failsAt_nil
  | cons e es ih =>
    cases j with
    | zero =>
      have htest := failsAt_zero.mp h
      cases k with
      | zero =>
        have hsame := htest.symm.trans (failsAt_zero.mp h')
        exact ⟨rfl, Except.error.inj hsame⟩
      | succ k =>
        -- The first condition fails, so it does not accept the record and hides all others.
        have haccepts := (failsAt_succ.mp h').1
        rw [Input.accepts_of_test_eq_error htest] at haccepts
        cases haccepts
    | succ j =>
      obtain ⟨haccepts, hfails⟩ := failsAt_succ.mp h
      cases k with
      | zero =>
        rw [Input.accepts_of_test_eq_error (failsAt_zero.mp h')] at haccepts
        cases haccepts
      | succ k =>
        obtain ⟨rfl, herror⟩ := ih hfails (failsAt_succ.mp h').2
        exact ⟨rfl, herror⟩

/-- The two ways in which a record is tried: a condition fails, or it is known whether all
conditions accept the record. -/
theorem meets_cases (r : Record) (conditions : List (String × Input)) :
    (∃ j error, r.FailsAt conditions j error ∧ r.meets conditions = .error error) ∨
      (∀ j error, ¬ r.FailsAt conditions j error) ∧
        r.meets conditions = .ok (conditions.all fun e => e.2.accepts r e.1) := by
  induction conditions with
  | nil => exact Or.inr ⟨fun _ _ => not_failsAt_nil, rfl⟩
  | cons e es ih =>
    cases htest : e.2.test r e.1 with
    | error error =>
      refine Or.inl ⟨0, error, failsAt_zero.mpr htest, ?_⟩
      rw [meets, htest]
    | ok answer =>
      have haccepts : e.2.accepts r e.1 = answer.isTruthy := by rw [Input.accepts, htest]
      have hzero : ∀ error, ¬ r.FailsAt (e :: es) 0 error := fun error hfails => by
        rw [failsAt_zero, htest] at hfails
        cases hfails
      rw [meets, htest, List.all_cons, haccepts]
      dsimp only
      cases hanswer : answer.isTruthy with
      | false =>
        refine Or.inr ⟨fun j error hfails => ?_, rfl⟩
        cases j with
        | zero => exact hzero error hfails
        | succ j =>
          rw [failsAt_succ, haccepts, hanswer] at hfails
          cases hfails.1
      | true =>
        rcases ih with ⟨j, error, hfails, hmeets⟩ | ⟨hnever, hmeets⟩
        · exact Or.inl ⟨j + 1, error,
            failsAt_succ.mpr ⟨haccepts.trans hanswer, hfails⟩, hmeets⟩
        · refine Or.inr ⟨fun j error hfails => ?_, hmeets⟩
          cases j with
          | zero => exact hzero error hfails
          | succ j => exact hnever j error (failsAt_succ.mp hfails).2

end Record

/-! ## All records -/

namespace Stage

/-- The condition at position `j` is reached by the record at position `i` and has no answer. -/
def FailsAt (conditions : List (String × Input)) (records : List Record) (i j : Nat)
    (error : ConditionError) : Prop :=
  ∃ r, records[i]? = some r ∧ r.FailsAt conditions j error

/-- Of all conditions that are reached and have no answer, the one at position `j` of the record at
position `i` is the first. -/
def FailsFirst (conditions : List (String × Input)) (records : List Record) (i j : Nat)
    (error : ConditionError) : Prop :=
  FailsAt conditions records i j error ∧
    ∀ i' j' error', FailsAt conditions records i' j' error' → i < i' ∨ i = i' ∧ j ≤ j'

variable {conditions : List (String × Input)} {records kept : List Record} {r : Record}
  {i j : Nat} {error : ConditionError}

theorem failsAt_zero :
    FailsAt conditions (r :: records) 0 j error ↔ r.FailsAt conditions j error := by
  simp [FailsAt]

theorem failsAt_succ :
    FailsAt conditions (r :: records) (i + 1) j error ↔ FailsAt conditions records i j error := by
  simp [FailsAt]

theorem FailsFirst.unique {i' j' : Nat} {error' : ConditionError}
    (h : FailsFirst conditions records i j error)
    (h' : FailsFirst conditions records i' j' error') : error = error' := by
  obtain ⟨⟨r, hr, hfails⟩, hfirst⟩ := h
  obtain ⟨⟨s, hs, hfails'⟩, hfirst'⟩ := h'
  have hle := hfirst i' j' error' ⟨s, hs, hfails'⟩
  have hge := hfirst' i j error ⟨r, hr, hfails⟩
  obtain rfl : i = i' := by omega
  obtain rfl : r = s := Option.some.inj (hr.symm.trans hs)
  exact (hfails.unique hfails').2

/-- The first failure of the first record is the first of all. -/
theorem failsFirst_head (h : r.FailsAt conditions j error) :
    FailsFirst conditions (r :: records) 0 j error := by
  refine ⟨failsAt_zero.mpr h, fun i' j' error' hfails => ?_⟩
  cases i' with
  | zero => exact Or.inr ⟨rfl, Nat.le_of_eq (h.unique (failsAt_zero.mp hfails)).1⟩
  | succ i' => exact Or.inl (Nat.succ_pos i')

/-- A first record without failures leaves the first failure to the others. -/
theorem failsFirst_tail (hnever : ∀ j error, ¬ r.FailsAt conditions j error)
    (h : FailsFirst conditions records i j error) :
    FailsFirst conditions (r :: records) (i + 1) j error := by
  refine ⟨failsAt_succ.mpr h.1, fun i' j' error' hfails => ?_⟩
  cases i' with
  | zero => exact absurd (failsAt_zero.mp hfails) (hnever j' error')
  | succ i' =>
    have hlater := h.2 i' j' error' (failsAt_succ.mp hfails)
    omega

/-- The two ways in which a filter ends. -/
theorem filter_cases (conditions : List (String × Input)) (records : List Record) :
    (∃ i j error, FailsFirst conditions records i j error ∧
        filter conditions records = .error error) ∨
      (∀ i j error, ¬ FailsAt conditions records i j error) ∧
        filter conditions records =
          .ok (records.filter fun r => conditions.all fun e => e.2.accepts r e.1) := by
  induction records with
  | nil => exact Or.inr ⟨fun i j error hfails => by simp [FailsAt] at hfails, rfl⟩
  | cons r rs ih =>
    rw [filter]
    rcases r.meets_cases conditions with ⟨j, error, hfails, hmeets⟩ | ⟨hnever, hmeets⟩
    · rw [hmeets]
      exact Or.inl ⟨0, j, error, failsFirst_head hfails, rfl⟩
    · -- The other records are tried whether this one is kept or not.
      rw [hmeets]
      rcases ih with ⟨i, j, error, hfirst, hrest⟩ | ⟨hnone, hrest⟩
      · rw [hrest]
        exact Or.inl ⟨i + 1, j, error, failsFirst_tail hnever hfirst, rfl⟩
      · rw [hrest, List.filter_cons]
        refine Or.inr ⟨fun i j error hfails => ?_, rfl⟩
        cases i with
        | zero => exact hnever j error (failsAt_zero.mp hfails)
        | succ i => exact hnone i j error (failsAt_succ.mp hfails)

/-- A filter fails with the error of the first failure. -/
theorem filter_eq_error_iff : filter conditions records = .error error ↔
    ∃ i j, FailsFirst conditions records i j error := by
  rcases filter_cases conditions records with ⟨i, j, error', hfirst, hfilter⟩ | ⟨hnone, hfilter⟩
  · rw [hfilter, Except.error.injEq]
    constructor
    · rintro rfl
      exact ⟨i, j, hfirst⟩
    · rintro ⟨i', j', hfirst'⟩
      exact hfirst.unique hfirst'
  · rw [hfilter]
    refine ⟨nofun, ?_⟩
    rintro ⟨i, j, hfirst⟩
    exact absurd hfirst.1 (hnone i j error)

/-- A filter without failures keeps the records that every condition accepts. -/
theorem filter_eq_ok_iff : filter conditions records = .ok kept ↔
    (∀ i j error, ¬ FailsAt conditions records i j error) ∧
      kept = records.filter fun r => conditions.all fun e => e.2.accepts r e.1 := by
  rcases filter_cases conditions records with ⟨i, j, error, hfirst, hfilter⟩ | ⟨hnone, hfilter⟩
  · rw [hfilter]
    exact ⟨nofun, fun h => absurd hfirst.1 (h.1 i j error)⟩
  · rw [hfilter, Except.ok.injEq]
    exact ⟨fun h => ⟨hnone, h.symm⟩, fun h => h.2.symm⟩

/-- A filter by conditions that succeeds keeps the records that satisfy them. -/
theorem eq_of_filter_eq_ok {conditions : List (String × Condition)}
    (h : filter (conditions.map fun e => (e.1, .condition e.2)) records = .ok kept) :
    kept = records.filter fun r => r.satisfies conditions := by
  rw [(filter_eq_ok_iff.mp h).2]
  simp only [List.all_map]
  rfl

theorem exists_filter_eq_error_iff : (∃ error, filter conditions records = .error error) ↔
    ∃ i j error, FailsAt conditions records i j error := by
  constructor
  · rintro ⟨error, hfilter⟩
    obtain ⟨i, j, hfirst⟩ := filter_eq_error_iff.mp hfilter
    exact ⟨i, j, error, hfirst.1⟩
  · rintro ⟨i, j, error, hfails⟩
    rcases filter_cases conditions records with ⟨_, _, error', -, hfilter⟩ | ⟨hnone, -⟩
    · exact ⟨error', hfilter⟩
    · exact absurd hfails (hnone i j error)

/-! ## Queries that a caller supplies -/

/-- Conditions under the same names with the same tests filter alike. -/
theorem filter_congr {others : List (String × Input)}
    (h : List.Forall₂ (fun x y => x.1 = y.1 ∧ x.2.test = y.2.test) conditions others)
    (records : List Record) : filter conditions records = filter others records := by
  have hmeets : ∀ r : Record, r.meets conditions = r.meets others := by
    intro r
    induction h with
    | nil => rfl
    | cons hxy _ ih => rw [Record.meets, Record.meets, hxy.1, hxy.2, ih]
  induction records with
  | nil => rfl
  | cons r rs ih => rw [filter, filter, hmeets r, ih]

/-- An accepted query filters as the conditions that were supplied. -/
theorem filter_inputs_of_ofInput {supplied : Input} {entries : List (String × Input)} {q : Query}
    (hentries : supplied.entries? = some entries)
    (hnames : ((Query.suppliedConditions entries).map Prod.fst).Nodup)
    (h : Query.ofInput supplied = .ok q) (records : List Record) :
    filter q.inputs records = filter (Query.suppliedConditions entries) records := by
  obtain ⟨checked, hchecked, hconditions⟩ := Query.conditions_of_ofInput hentries h
  have hrelated := Query.conditionEntries_eq_ok_iff.mp hchecked
  have hsame : checked.map Prod.fst = (Query.suppliedConditions entries).map Prod.fst := by
    have hfst : List.Forall₂ (· = ·) ((Query.suppliedConditions entries).map Prod.fst)
        (checked.map Prod.fst) := by
      rw [List.forall₂_map_left_iff, List.forall₂_map_right_iff]
      exact hrelated.imp fun x e hxe => hxe.1
    rw [List.forall₂_eq_eq_eq] at hfst
    exact hfst.symm
  have hinputs : q.inputs = checked.map fun e => (e.1, Input.condition e.2) := by
    rw [Query.inputs, hconditions, OrderedMap.entries_ofList (hsame ▸ hnames)]
  rw [hinputs]
  apply filter_congr
  rw [List.forall₂_map_left_iff]
  refine hrelated.flip.imp fun e x hxe => ⟨hxe.1.symm, ?_⟩
  funext r field
  rw [Input.test_of_toCondition hxe.2]
  rfl

/-- A query that is accepted names no unknown operator. -/
theorem not_namesUnknown_of_ofInput {supplied : Input} {entries : List (String × Input)}
    {q : Query} (hentries : supplied.entries? = some entries) (h : Query.ofInput supplied = .ok q) :
    ∀ x ∈ Query.suppliedConditions entries, ∀ e, ¬ x.2.NamesUnknown e := by
  intro x hx e hunknown
  obtain ⟨_, _, _, _, -, hrejected⟩ := Query.ofInput_of_namesUnknown hentries ⟨x, hx, e, hunknown⟩
  rw [hrejected] at h
  cases h

/-- Without unknown operators a filter fails only with the errors of predicates, and where an integer
cannot be written. -/
theorem eq_hugeInteger_or_predicate_of_filter_eq_error
    (hknown : ∀ e ∈ conditions, ∀ error, ¬ e.2.NamesUnknown error)
    (h : filter conditions records = .error error) :
    error = .hugeInteger ∨ ∃ message, error = .predicate message := by
  obtain ⟨i, j, ⟨r, -, -, e, he, htest⟩, -⟩ := filter_eq_error_iff.mp h
  rcases Input.test_eq_error_iff.mp htest with hunknown | ⟨_, _, -, -, herror⟩ |
    ⟨p, message, -, -, herror⟩
  · exact absurd hunknown (hknown e (List.mem_of_getElem? he) error)
  · exact Or.inl herror
  · exact Or.inr ⟨message, herror⟩

/-- Conditions of different names fail in a filter as soon as one that is reached has no answer,
with the error of the first such condition; else the filter keeps what all of them accept. As a part
of a query they are checked before: an unknown operator is a fault of the query for all records, and
the conditions of an accepted query filter as they stand, failing with the error of a predicate or for
an integer that cannot be written. -/
theorem filter_fails_first (hnames : (conditions.map Prod.fst).Nodup) :
    (∀ records,
        ((∃ error, filter conditions records = .error error) ↔
          ∃ i j error, FailsAt conditions records i j error) ∧
        (∀ error, filter conditions records = .error error ↔
          ∃ i j, FailsFirst conditions records i j error) ∧
        ∀ kept, filter conditions records = .ok kept ↔
          (∀ i j error, ¬ FailsAt conditions records i j error) ∧
            kept = records.filter fun r => conditions.all fun e => e.2.accepts r e.1) ∧
      (∀ e ∈ conditions, ∀ error, e.2.NamesUnknown error →
        ∀ r, e.2.test r e.1 = .error error) ∧
      ∀ supplied entries, supplied.entries? = some entries →
        Query.suppliedConditions entries = conditions →
        ((∃ e ∈ conditions, ∃ error, e.2.NamesUnknown error) →
          ∃ e ∈ conditions, ∃ error more, e.2.NamesUnknown error ∧ ∀ records,
            Query.execute (some supplied) records = .error (.rejected ⟨"QuerySpec",
              ⟨[.name "where"], .refused error.message⟩ :: more⟩)) ∧
        ∀ q, Query.ofInput supplied = .ok q → ∀ records,
          filter q.inputs records = filter conditions records ∧
          (∀ error, filter conditions records = .error error →
            (error = .hugeInteger ∨ ∃ message, error = .predicate message) ∧
              Query.execute (some supplied) records = .error (.failed error)) ∧
          ∀ kept, filter conditions records = .ok kept →
            (∀ sorted, sort q.sort kept = .ok sorted →
              Query.execute (some supplied) records =
                .ok (select q.fields (limit q.limit sorted))) ∧
            ∀ error, sort q.sort kept = .error error →
              error = .hugeInteger ∧
                Query.execute (some supplied) records = .error (.failed error) := by
  refine ⟨fun records => ⟨exists_filter_eq_error_iff, fun error => filter_eq_error_iff,
    fun kept => filter_eq_ok_iff⟩, fun e _ error hunknown r =>
      Input.test_of_namesUnknown hunknown r e.1,
    fun supplied entries hentries hconditions => ⟨fun hunknown => ?_, fun q hq records => ?_⟩⟩
  · subst hconditions
    obtain ⟨e, he, error, more, hname, hrejected⟩ :=
      Query.ofInput_of_namesUnknown hentries hunknown
    refine ⟨e, he, error, more, hname, fun records => ?_⟩
    simp only [Query.execute, Option.elim_some, hrejected]
  · subst hconditions
    have hfilter := filter_inputs_of_ofInput hentries hnames hq records
    have hknown := not_namesUnknown_of_ofInput hentries hq
    refine ⟨hfilter, fun error herror =>
        ⟨eq_hugeInteger_or_predicate_of_filter_eq_error hknown herror, ?_⟩,
      fun kept hkept => ⟨fun sorted hsorted => ?_,
        fun error herror => ⟨(sort_eq_error_iff.mp herror).2, ?_⟩⟩⟩
    · simp only [Query.execute, Option.elim_some, hq, Query.run, hfilter, herror]
    · simp only [Query.execute, Option.elim_some, hq, Query.run, hfilter, hkept, hsorted]
    · simp only [Query.execute, Option.elim_some, hq, Query.run, hfilter, hkept, herror]

/-- The second condition names no operator. Only the second record reaches it, but a query with it is
rejected for all records. -/
theorem filter_fails_first_of_unreached :
    let conditions : List (String × Input) :=
      [("n", .condition (.predicate ⟨"value", fun v _ => .ok v⟩)),
        ("m", .table [("op", .value (.text "like"))])]
    let supplied : Input := .table [("where", .table conditions)]
    (conditions.map Prod.fst).Nodup ∧ filter conditions [⟨{}, .empty⟩] = .ok [] ∧
      filter conditions [⟨{}, .empty⟩, ⟨{}, .ofList [("n", .int 1)]⟩] =
        .error (.unknownOperator "like") ∧
      ∃ r, ∀ records, Query.execute (some supplied) records = .error (.rejected r) := by
  intro conditions supplied
  have hnames : (conditions.map Prod.fst).Nodup := by decide
  have hunknown : Input.NamesUnknown (.table [("op", .value (.text "like"))])
      (.unknownOperator "like") :=
    ⟨[("op", .text "like")], .text "like", rfl, rfl,
      .unknown (v := .text "like") rfl (by unfold Operator.IsKnown; decide)⟩
  obtain ⟨hfilter, htest, hsupplied⟩ := filter_fails_first hnames
  have hmem : ("m", Input.table [("op", .value (.text "like"))]) ∈ conditions := by
    simp [conditions]
  obtain ⟨hrejected, -⟩ := hsupplied supplied _ rfl rfl
  obtain ⟨_, -, _, _, -, hrejected⟩ := hrejected ⟨_, hmem, _, hunknown⟩
  refine ⟨hnames, rfl, ?_, _, hrejected⟩
  have hfails : Record.FailsAt ⟨{}, .ofList [("n", .int 1)]⟩ conditions 1
      (.unknownOperator "like") := by
    refine ⟨fun e he => ?_, _, rfl, htest _ hmem _ hunknown _⟩
    rw [List.mem_singleton.mp he]
    rfl
  have hpasses : ∀ j error, ¬ Record.FailsAt ⟨{}, .empty⟩ conditions j error := by
    have hmeets : Record.meets ⟨{}, .empty⟩ conditions = .ok false := rfl
    rcases Record.meets_cases ⟨{}, .empty⟩ conditions with ⟨_, _, -, hfailed⟩ | ⟨hnever, -⟩
    · rw [hmeets] at hfailed
      cases hfailed
    · exact hnever
  exact ((hfilter _).2.1 _).mpr ⟨1, 1, failsFirst_tail hpasses (failsFirst_head hfails)⟩

end Stage

end NoteQuery
