import Mathlib.Data.List.Forall2
import NoteQuery.Proofs.Condition.OperatorNames
import NoteQuery.Proofs.OrderedMaps
import NoteQuery.Query.Stages

/-!
# Conditions that a caller supplies

What is supplied as a condition is one unless it is a table with an operator that does not exist.
A table of conditions is checked as a whole: the first of them that cannot be used is the fault of
the table, and if there is none, every condition stands under its name.

* `toCondition_eq_error_iff`: what cannot be used as a condition.
* `conditionEntries_eq_ok_iff`, `exists_conditionEntries_error`: tables of conditions.
* `conditions_of_ofInput`, `ofInput_of_namesUnknown`: the conditions of a query that is supplied.
-/

namespace NoteQuery

namespace Input

/-- What is supplied is a table whose operator does not exist. -/
def NamesUnknown (i : Input) (e : ConditionError) : Prop :=
  ∃ entries op, i.toValue = .table entries ∧ Value.lookup? "op" entries = some op ∧
    Operator.Misnames op e

theorem ofValue_eq_error_iff {v : Value} {e : ConditionError} :
    Condition.ofValue v = .error e ↔
      ∃ entries op, v = .table entries ∧ Value.lookup? "op" entries = some op ∧
        Operator.Misnames op e := by
  simp only [← Operator.ofValue_eq_error_iff]
  cases v with
  | table entries =>
    cases hop : Value.lookup? "op" entries with
    | none => simp [Condition.ofValue, hop]
    | some op =>
      cases hname : Operator.ofValue op with
      | ok kind => simp [Condition.ofValue, hop, hname]
      | error e' => simp [Condition.ofValue, hop, hname]
  | _ => simp [Condition.ofValue]

/-- Only a table with an unknown operator is no condition. -/
theorem toCondition_eq_error_iff {i : Input} {e : ConditionError} :
    i.toCondition = .error e ↔ i.NamesUnknown e := by
  rw [NamesUnknown, ← ofValue_eq_error_iff]
  cases i with
  | condition c => simp [toCondition, toValue, Condition.ofValue]
  | value v => rfl
  | table entries => rfl

end Input

/-! ## Checks one after the other -/

namespace Checked

variable {α β : Type}

theorem map_eq_ok_iff {f : α → β} {x : Checked α} {b : β} :
    f <$> x = .ok b ↔ ∃ a, x = .ok a ∧ f a = b := by
  cases x with
  | ok a =>
    have hmap : f <$> ok a = ok (f a) := rfl
    simp [hmap]
  | faulty faults =>
    have hmap : f <$> faulty faults = faulty faults := rfl
    simp [hmap]

theorem seq_eq_ok_iff {f : Checked (α → β)} {x : Checked α} {b : β} :
    f <*> x = .ok b ↔ ∃ g a, f = .ok g ∧ x = .ok a ∧ g a = b := by
  have hseq : f <*> x = seq f x := rfl
  rw [hseq]
  cases f <;> cases x <;> simp [seq]

/-- The faults of a first check come before those of the others. -/
theorem seq_faulty {faults : List Fault} {f : Checked (α → β)}
    (h : ∃ more, f = faulty (faults ++ more)) (x : Checked α) :
    ∃ more, f <*> x = faulty (faults ++ more) := by
  obtain ⟨more, rfl⟩ := h
  cases x with
  | ok a => exact ⟨more, rfl⟩
  | faulty others => exact ⟨more ++ others, by rw [← List.append_assoc]; rfl⟩

end Checked

/-! ## Tables of conditions -/

namespace Query

theorem conditionEntries_eq_ok_iff {raw : List (String × Input)}
    {conditions : List (String × Condition)} :
    conditionEntries raw = .ok conditions ↔
      List.Forall₂ (fun x e => x.1 = e.1 ∧ x.2.toCondition = .ok e.2) raw conditions := by
  induction raw generalizing conditions with
  | nil => rw [List.forall₂_nil_left_iff, conditionEntries, Except.ok.injEq, eq_comm]
  | cons x raw ih =>
    rw [List.forall₂_cons_left_iff, conditionEntries]
    cases hx : x.2.toCondition with
    | error e => simp
    | ok c =>
      cases hraw : conditionEntries raw with
      | error e =>
        rw [hraw] at ih
        simp [← ih]
      | ok cs =>
        rw [hraw] at ih
        simp only [Except.ok.injEq] at ih ⊢
        constructor
        · rintro rfl
          exact ⟨(x.1, c), cs, ⟨rfl, rfl⟩, ih.mp rfl, rfl⟩
        · rintro ⟨e, es, ⟨hname, rfl⟩, hes, rfl⟩
          rw [ih.mpr hes, hname]

/-- A table of conditions is refused if one of them is, for an operator of one of them. -/
theorem exists_conditionEntries_error {raw : List (String × Input)}
    (h : ∃ x ∈ raw, ∃ e, x.2.NamesUnknown e) :
    ∃ x ∈ raw, ∃ e, x.2.NamesUnknown e ∧ conditionEntries raw = .error e := by
  induction raw with
  | nil =>
    obtain ⟨x, hx, -⟩ := h
    cases hx
  | cons y raw ih =>
    rw [conditionEntries]
    cases hy : y.2.toCondition with
    | error e =>
      exact ⟨y, List.mem_cons_self, e, Input.toCondition_eq_error_iff.mp hy, rfl⟩
    | ok c =>
      obtain ⟨x, hx, e, hunknown⟩ := h
      rcases List.mem_cons.mp hx with rfl | hx
      · rw [Input.toCondition_eq_error_iff.mpr hunknown] at hy
        cases hy
      · obtain ⟨x, hx, e, hunknown, hraw⟩ := ih ⟨x, hx, e, hunknown⟩
        rw [hraw]
        exact ⟨x, List.mem_cons_of_mem _ hx, e, hunknown, rfl⟩

theorem checkConditions_eq_ok {i : Input} {m : OrderedMap Condition}
    (h : checkConditions i = .ok m) :
    ∃ conditions, conditionEntries (i.entries?.getD []) = .ok conditions ∧
      m = OrderedMap.ofList conditions := by
  unfold checkConditions at h
  split at h
  · cases h
    exact ⟨[], rfl, rfl⟩
  · split at h
    · cases h
    · rename_i raw hraw
      rw [hraw]
      split at h
      · rename_i conditions hconditions
        cases h
        exact ⟨conditions, hconditions, rfl⟩
      · cases h

theorem checkConditions_refused {i : Input} {raw : List (String × Input)} {e : ConditionError}
    (hraw : i.entries? = some raw) (he : conditionEntries raw = .error e) :
    checkConditions i = Checked.fail (.refused e.message) := by
  unfold checkConditions
  split
  · cases hraw
  · simp only [hraw, he]

/-! ## Queries that a caller supplies -/

/-- The conditions under `where`, as they are supplied. -/
def suppliedConditions (entries : List (String × Input)) : List (String × Input) :=
  ((entries.lookup "where").bind Input.entries?).getD []

theorem suppliedConditions_of_lookup {entries : List (String × Input)} {i : Input}
    (h : entries.lookup "where" = some i) : suppliedConditions entries = i.entries?.getD [] := by
  rw [suppliedConditions, h]
  rfl

variable {entries : List (String × Input)} {i : Input}

/-- The conditions of an accepted query are those that were supplied. -/
theorem conditions_of_ofInput {q : Query} (hentries : i.entries? = some entries)
    (h : ofInput i = .ok q) :
    ∃ conditions, conditionEntries (suppliedConditions entries) = .ok conditions ∧
      q.conditions = OrderedMap.ofList conditions := by
  have hchecked : ofEntries entries = .ok q := by
    unfold ofInput at h
    rw [hentries] at h
    dsimp only at h
    cases hq : ofEntries entries with
    | ok q' => rw [hq] at h; cases h; rfl
    | faulty faults => rw [hq] at h; cases h
  -- The checks stand in the order of the options, the conditions innermost.
  unfold ofEntries at hchecked
  obtain ⟨_, fields, hrest, -, hfields⟩ := Checked.seq_eq_ok_iff.mp hchecked
  obtain ⟨_, limit, hrest, -, hlimit⟩ := Checked.seq_eq_ok_iff.mp hrest
  obtain ⟨_, sort, hrest, -, hsort⟩ := Checked.seq_eq_ok_iff.mp hrest
  obtain ⟨m, hm, hmk⟩ := Checked.map_eq_ok_iff.mp hrest
  have hq : q.conditions = m := by rw [← hfields, ← hlimit, ← hsort, ← hmk]
  rw [hq]
  split at hm
  · rename_i w hw
    rw [suppliedConditions_of_lookup hw]
    cases hcheck : checkConditions w with
    | faulty faults => rw [hcheck] at hm; cases hm
    | ok m' =>
      rw [hcheck] at hm
      cases hm
      exact checkConditions_eq_ok hcheck
  · rename_i hnone
    cases hm
    rw [suppliedConditions, hnone]
    exact ⟨[], rfl, rfl⟩

/-- A query with an unknown operator is rejected; the first fault is at its conditions. -/
theorem ofInput_of_namesUnknown (hentries : i.entries? = some entries)
    (h : ∃ x ∈ suppliedConditions entries, ∃ e, x.2.NamesUnknown e) :
    ∃ x ∈ suppliedConditions entries, ∃ e more, x.2.NamesUnknown e ∧
      ofInput i = .error ⟨"QuerySpec", ⟨[.name "where"], .refused e.message⟩ :: more⟩ := by
  obtain ⟨x, hx, e, hunknown, hrefused⟩ := exists_conditionEntries_error h
  cases hw : entries.lookup "where" with
  | none =>
    rw [suppliedConditions, hw] at hx
    cases hx
  | some w =>
    rw [suppliedConditions_of_lookup hw] at hx hrefused ⊢
    cases hraw : w.entries? with
    | none =>
      rw [hraw] at hx
      cases hx
    | some raw =>
      rw [hraw] at hrefused
      let fault : Fault := ⟨[.name "where"], .refused e.message⟩
      have hconditions : (checkConditions w).within (.name "where") = .faulty [fault] := by
        rw [checkConditions_refused hraw hrefused]
        rfl
      have hstart : ∃ more, mk <$> Checked.faulty [fault] = .faulty ([fault] ++ more) :=
        ⟨[], rfl⟩
      have hfaulty : ∃ more, ofEntries entries = .faulty ([fault] ++ more) := by
        unfold ofEntries
        simp only [hw, hconditions]
        exact Checked.seq_faulty (Checked.seq_faulty (Checked.seq_faulty hstart _) _) _
      obtain ⟨more, hmore⟩ := hfaulty
      refine ⟨x, hraw ▸ hx, e, more, hunknown, ?_⟩
      rw [ofInput, hentries]
      simp only [hmore, Checked.toExcept, fault, List.singleton_append]

end Query

end NoteQuery
