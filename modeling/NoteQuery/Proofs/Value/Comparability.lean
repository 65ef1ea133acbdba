import NoteQuery.Proofs.Value.Reversal

/-!
# Values that can be compared

A comparison fails where it needs the text of an integer that has too many digits to be written. Values
that can be written can be compared with each other, whatever their kinds. It does not matter from which
side two values are compared, and a value of a note can be compared with itself.

* `isWritable_int_iff`: the integers that can be written.
* `isComparable_of_isWritable`: values that can be written.
* `isComparable_comm`, `IsFlat.isComparable_self`: the other side, and the value itself.
* `compare?_comm`, `compare?_eq_none_iff`, `isAtMost_iff`: what comparing comes to.
-/

namespace NoteQuery

namespace Value

/-! ## Values that can be written -/

theorem isWritable_int_iff {i : Int} :
    (int i).isWritable ↔ (Nat.toDigits 10 i.natAbs).length ≤ Text.digitLimit := by
  rw [isWritable, decide_eq_true_iff]

/-- The least integer that has too many digits. -/
def firstHuge : Value := .int (Nat.pow 10 Text.digitLimit)

theorem isWritable_firstHuge : firstHuge.isWritable = false := by
  rw [firstHuge, ← Bool.not_eq_true, isWritable_int_iff, Int.natAbs_natCast,
    Nat.length_toDigits_le_iff (by decide) (by decide), Nat.pow_eq]
  -- The power is too large to be computed.
  generalize Text.digitLimit = limit
  exact Nat.lt_irrefl _

theorem areWritable_iff {vs : List Value} : areWritable vs ↔ ∀ v ∈ vs, v.isWritable := by
  induction vs with
  | nil => simp [areWritable]
  | cons v vs ih => rw [areWritable, Bool.and_eq_true, ih, List.forall_mem_cons]

mutual

theorem isWritable_normalize (v : Value) : v.normalize.isWritable = v.isWritable := by
  match v with
  | .list items | .tuple items => exact areWritable_normalizeAll items
  | .stamp (.day _) | .stamp (.moment _ _ _) | .stamp (.clock _) => rfl
  | .null | .bool _ | .int _ | .float _ | .text _ | .date _ | .table _ => rfl

theorem areWritable_normalizeAll (vs : List Value) :
    areWritable (normalizeAll vs) = areWritable vs := by
  match vs with
  | [] => rfl
  | v :: vs =>
    rw [normalizeAll, areWritable, areWritable, isWritable_normalize v, areWritable_normalizeAll vs]

end

/-! ## Values that can be compared -/

theorem isComparable_null_right (v : Value) : v.isComparable .null := by cases v <;> rfl

/-- Values other than lists are comparable as numbers, or by their texts. -/
theorem isComparable_of_not_lists {v w : Value} (hv : v ≠ .null) (hw : w ≠ .null)
    (hlists : ¬ (v.IsList ∧ w.IsList)) :
    v.isComparable w = ((v.isNumber && w.isNumber) || (v.isWritable && w.isWritable)) := by
  rw [isComparable.eq_def]
  split
  · exact absurd rfl hv
  · exact absurd rfl hw
  · exact absurd ⟨⟨_, rfl⟩, _, rfl⟩ hlists
  · rfl

theorem isComparable_of_not_lists_of_isWritable {v w : Value} (hlists : ¬ (v.IsList ∧ w.IsList))
    (hv : v.isWritable) (hw : w.isWritable) : v.isComparable w := by
  by_cases hnv : v = .null
  · subst hnv
    rfl
  · by_cases hnw : w = .null
    · subst hnw
      exact isComparable_null_right v
    · rw [isComparable_of_not_lists hnv hnw hlists, hv, hw]
      exact Bool.or_true _

/-- A text cannot be compared with an integer that has too many digits. -/
theorem isComparable_firstHuge_text (s : String) : firstHuge.isComparable (.text s) = false := by
  have hhuge : firstHuge ≠ .null := Value.noConfusion
  have htext : text s ≠ .null := Value.noConfusion
  have hlists : ¬ (firstHuge.IsList ∧ (text s).IsList) := by
    rintro ⟨-, ws, hws⟩
    cases hws
  rw [isComparable_of_not_lists hhuge htext hlists, isWritable_firstHuge]
  rfl

theorem areComparable_cons {v w : Value} {vs ws : List Value} :
    areComparable (v :: vs) (w :: ws) ↔
      v.isComparable w ∧ (v.order w = .eq → areComparable vs ws) := by
  rw [areComparable, Bool.and_eq_true]
  cases v.order w <;> simp

mutual

/-- Values that can be written can be compared. -/
theorem isComparable_of_isWritable (v w : Value) (hv : v.isWritable) (hw : w.isWritable) :
    v.isComparable w := by
  cases v with
  | list vs =>
    cases w with
    | list ws => exact areComparable_of_areWritable vs ws hv hw
    | _ =>
      exact isComparable_of_not_lists_of_isWritable (by rintro ⟨-, ws, hws⟩; cases hws) hv hw
  | _ => exact isComparable_of_not_lists_of_isWritable (by rintro ⟨⟨vs, hvs⟩, -⟩; cases hvs) hv hw

theorem areComparable_of_areWritable (vs ws : List Value) (hvs : areWritable vs)
    (hws : areWritable ws) : areComparable vs ws := by
  match vs, ws with
  | [], [] | [], _ :: _ | _ :: _, [] => rfl
  | v :: vs, w :: ws =>
    rw [areWritable, Bool.and_eq_true] at hvs hws
    exact areComparable_cons.mpr ⟨isComparable_of_isWritable v w hvs.1 hws.1,
      fun _ => areComparable_of_areWritable vs ws hvs.2 hws.2⟩

end

/-! ## The other side -/

theorem order_eq_eq_comm (v w : Value) : v.order w = .eq ↔ w.order v = .eq := by
  rcases order_reversed v w with hswap | ⟨hvw, hwv⟩
  · rw [hswap, Ordering.swap_eq_eq]
  · rw [hvw, hwv]

theorem isComparable_comm_of_not_lists {v w : Value} (hlists : ¬ (v.IsList ∧ w.IsList)) :
    v.isComparable w = w.isComparable v := by
  by_cases hnv : v = .null
  · subst hnv
    exact (isComparable_null_right w).symm
  · by_cases hnw : w = .null
    · subst hnw
      exact isComparable_null_right v
    · rw [isComparable_of_not_lists hnv hnw hlists,
        isComparable_of_not_lists hnw hnv fun h => hlists h.symm, Bool.and_comm v.isNumber,
        Bool.and_comm v.isWritable]

mutual

theorem isComparable_comm (v w : Value) : v.isComparable w = w.isComparable v := by
  cases v with
  | list vs =>
    cases w with
    | list ws => exact areComparable_comm vs ws
    | _ => exact isComparable_comm_of_not_lists (by rintro ⟨-, ws, hws⟩; cases hws)
  | _ => exact isComparable_comm_of_not_lists (by rintro ⟨⟨vs, hvs⟩, -⟩; cases hvs)

theorem areComparable_comm (vs ws : List Value) : areComparable vs ws = areComparable ws vs := by
  match vs, ws with
  | [], [] | [], _ :: _ | _ :: _, [] => rfl
  | v :: vs, w :: ws =>
    rw [Bool.eq_iff_iff, areComparable_cons, areComparable_cons, isComparable_comm v w,
      order_eq_eq_comm v w, areComparable_comm vs ws]

end

/-! ## The value itself -/

theorem areComparable_self {vs : List Value} (h : ∀ v ∈ vs, v.isComparable v) :
    areComparable vs vs := by
  induction vs with
  | nil => rfl
  | cons v vs ih =>
    exact areComparable_cons.mpr ⟨h v List.mem_cons_self,
      fun _ => ih fun w hw => h w (List.mem_cons_of_mem _ hw)⟩

theorem isComparable_of_isNumber {v w : Value} (hv : v.isNumber) (hw : w.isNumber) :
    v.isComparable w := by
  cases v <;> cases hv <;> (cases w <;> cases hw <;> rfl)

theorem IsNumber.isComparable_self {v : Value} (h : v.IsNumber) : v.isComparable v := by
  cases h <;> exact isComparable_of_isNumber rfl rfl

theorem IsTextual.isWritable {v : Value} (h : v.IsTextual) : v.isWritable := by
  cases h <;> rfl

theorem IsScalar.isComparable_self {v : Value} (h : v.IsScalar) : v.isComparable v := by
  cases h with
  | null => rfl
  | textual h => exact isComparable_of_isWritable v v h.isWritable h.isWritable
  | number h => exact h.isComparable_self

theorem IsFlat.isComparable_self {v : Value} (h : v.IsFlat) : v.isComparable v := by
  cases h with
  | scalar h => exact h.isComparable_self
  | list h => exact areComparable_self fun v hv => (h v hv).isComparable_self

/-! ## What comparing comes to -/

theorem compare?_of_isComparable {v w : Value} (h : v.isComparable w) :
    v.compare? w = some (v.order w) := if_pos h

theorem compare?_comm (v w : Value) (hswap : w.order v = (v.order w).swap) :
    w.compare? v = (v.compare? w).map Ordering.swap := by
  rw [compare?, compare?, isComparable_comm w v, hswap]
  cases v.isComparable w <;> rfl

theorem compare?_eq_none_iff {v w : Value} : v.compare? w = none ↔ v.isComparable w = false := by
  rw [compare?, ← Bool.not_eq_true]
  exact ite_eq_right_iff.trans (by simp)

/-- The first value can be compared with the second one, and does not come after it. -/
def isAtMost (v w : Value) : Bool := (v.compare? w).any Ordering.isLE

theorem isAtMost_iff {v w : Value} : v.isAtMost w ↔ v.isComparable w ∧ (v.order w).isLE := by
  rw [isAtMost, compare?]
  cases v.isComparable w <;> simp

end Value

end NoteQuery
