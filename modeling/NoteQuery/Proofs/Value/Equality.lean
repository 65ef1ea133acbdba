import NoteQuery.Value.Basic

/-!
# Identical values

Values are identical if they are of one kind and have identical contents, entries in the same order.
That is more than to count as equal: the integer one and the float one are not identical. It is decided
by a walk through both values, so that what a reader makes of a text can be found by running it.

* `Value.identical_iff`: what the walk decides.
-/

namespace NoteQuery.Value

mutual

def identical : Value → Value → Bool
  | null, null => true
  | bool a, bool b => a == b
  | int i, int j => i == j
  | float x, float y => x == y
  | text s, text t => s == t
  | date d, date e => d == e
  | list vs, list ws => identicalItems vs ws
  | tuple vs, tuple ws => identicalItems vs ws
  | stamp s, stamp t => s == t
  | table es, table fs => identicalEntries es fs
  | _, _ => false

def identicalItems : List Value → List Value → Bool
  | [], [] => true
  | v :: vs, w :: ws => identical v w && identicalItems vs ws
  | _, _ => false

def identicalEntries : List (String × Value) → List (String × Value) → Bool
  | [], [] => true
  | (name, v) :: es, (other, w) :: fs => name == other && identical v w && identicalEntries es fs
  | _, _ => false

end

mutual

theorem identical_iff (v w : Value) : identical v w = true ↔ v = w := by
  cases v with
  | list vs =>
    cases w with
    | list ws => rw [identical, list.injEq, identicalItems_iff vs ws]
    | _ => simp [identical]
  | tuple vs =>
    cases w with
    | tuple ws => rw [identical, tuple.injEq, identicalItems_iff vs ws]
    | _ => simp [identical]
  | table es =>
    cases w with
    | table fs => rw [identical, table.injEq, identicalEntries_iff es fs]
    | _ => simp [identical]
  | _ => cases w <;> simp [identical]

theorem identicalItems_iff (vs ws : List Value) : identicalItems vs ws = true ↔ vs = ws := by
  match vs, ws with
  | [], [] => exact iff_of_true rfl rfl
  | [], _ :: _ => simp [identicalItems]
  | _ :: _, [] => simp [identicalItems]
  | v :: vs, w :: ws =>
    rw [identicalItems, Bool.and_eq_true, identical_iff v w, identicalItems_iff vs ws, List.cons.injEq]

theorem identicalEntries_iff (es fs : List (String × Value)) :
    identicalEntries es fs = true ↔ es = fs := by
  match es, fs with
  | [], [] => exact iff_of_true rfl rfl
  | [], _ :: _ => simp [identicalEntries]
  | _ :: _, [] => simp [identicalEntries]
  | (name, v) :: es, (other, w) :: fs =>
    rw [identicalEntries, Bool.and_eq_true, Bool.and_eq_true, beq_iff_eq, identical_iff v w,
      identicalEntries_iff es fs, List.cons.injEq, Prod.mk.injEq]

end

instance : DecidableEq Value := fun v w => decidable_of_iff _ (identical_iff v w)

end NoteQuery.Value
