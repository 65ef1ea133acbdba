import NoteQuery.Condition.Basic
import NoteQuery.Proofs.Note.NoteValues
import NoteQuery.Proofs.Value.Comparability

/-!
# The order without `nan`

Without `nan`, two values stand in the reverse order when seen from the other side, whatever their
kinds and however deep the lists are nested. That makes the order antisymmetric and reflexive, but
no total preorder, since it is not transitive. Two values that cannot be compared cannot be compared
from the other side either.

* `Value.IsOrderable`: the values. `Value.IsOrderable.order_swap`: the two sides.
* `Condition.test_ofOperator_swap`: an operator of comparison and the one that asks the same from the
  other side.
* `Value.not_exactlyOne_of_orderable`: a number without a place among the texts.
* `Value.order_antisymmetric`: the laws together. `Document.order_swap_get`: fields of notes.
-/

namespace NoteQuery

open Std

namespace Value

/-- Nulls, booleans, numbers, `nan` left out, texts, dates, and lists of such values, at any depth. -/
inductive IsOrderable : Value → Prop
  | null : IsOrderable .null
  | bool (b : Bool) : IsOrderable (.bool b)
  | text (s : String) : IsOrderable (.text s)
  | date (d : DateLiteral) : IsOrderable (.date d)
  | number {v : Value} : v.IsNumber → IsOrderable v
  | list {items : List Value} : (∀ v ∈ items, IsOrderable v) → IsOrderable (.list items)

/-- One of three holds and the others do not. -/
def ExactlyOne (p q r : Prop) : Prop := (p ∧ ¬ q ∧ ¬ r) ∨ (¬ p ∧ q ∧ ¬ r) ∨ (¬ p ∧ ¬ q ∧ r)

theorem IsOrderable.isNumber {v : Value} (h : v.IsOrderable) (hnumber : v.isNumber) :
    v.IsNumber := by
  cases h with
  | number h => exact h
  | _ => cases hnumber

theorem IsOrderable.normalize_eq {v : Value} (h : v.IsOrderable) : v.normalize = v := by
  induction h with
  | number h => cases h <;> rfl
  | @list items _ ih =>
    rw [normalize, normalizeAll_eq_map, List.map_congr_left ih, List.map_id']
  | _ => rfl

/-! ## The two sides -/

theorem IsOrderable.order_swap_of_not_lists {v w : Value} (hv : v.IsOrderable)
    (hw : w.IsOrderable) (hlists : ¬ (v.IsList ∧ w.IsList)) : w.order v = (v.order w).swap := by
  cases hnumbers : v.isNumber && w.isNumber with
  | true =>
    rw [Bool.and_eq_true] at hnumbers
    have hnv := hv.isNumber hnumbers.1
    have hnw := hw.isNumber hnumbers.2
    rw [order_numbers hnw hnv, order_numbers hnv hnw]
    exact OrientedCmp.eq_swap
  | false => exact order_swap_of_not_numbers hlists hnumbers

/-- Lists are reversed with their items: the first items that differ are the same from both sides,
and so is the shorter list. -/
theorem orderItems_swap {vs ws : List Value}
    (h : ∀ v ∈ vs, ∀ w ∈ ws, w.order v = (v.order w).swap) :
    orderItems ws vs = (orderItems vs ws).swap := by
  induction vs generalizing ws with
  | nil => cases ws <;> rfl
  | cons v vs ih =>
    cases ws with
    | nil => rfl
    | cons w ws =>
      have hitems : orderItems ws vs = (orderItems vs ws).swap :=
        ih fun x hx y hy => h x (List.mem_cons_of_mem _ hx) y (List.mem_cons_of_mem _ hy)
      rw [orderItems, orderItems, Ordering.swap_then, hitems,
        h v List.mem_cons_self w List.mem_cons_self]

theorem IsOrderable.of_mem {items : List Value} (h : IsOrderable (.list items)) :
    ∀ v ∈ items, v.IsOrderable := by
  cases h with
  | number h => cases h
  | list h => exact h

theorem IsOrderable.order_swap {v w : Value} (hv : v.IsOrderable) (hw : w.IsOrderable) :
    w.order v = (v.order w).swap := by
  -- The items of the first list meet any items of the second, hence `generalizing`.
  induction hv generalizing w with
  | list hvs ih =>
    by_cases hlist : w.IsList
    · obtain ⟨ws, rfl⟩ := hlist
      exact orderItems_swap fun v hv w hw' => ih v hv (hw.of_mem w hw')
    · exact order_swap_of_not_lists (.list hvs) hw fun h => hlist h.2
  | number h =>
    refine order_swap_of_not_lists (.number h) hw ?_
    rintro ⟨⟨vs, rfl⟩, -⟩
    cases h
  | null | bool | text | date =>
    refine order_swap_of_not_lists (by constructor) hw ?_
    rintro ⟨⟨vs, hvs⟩, -⟩
    cases hvs

theorem IsOrderable.isComparable_self {v : Value} (h : v.IsOrderable) : v.isComparable v := by
  induction h with
  | number h => exact h.isComparable_self
  | list _ ih => exact areComparable_self ih
  | _ => rfl

/-- An integer with too many digits is not less than a text, not level with it and not greater. -/
theorem not_exactlyOne_of_orderable :
    ¬ ∀ v w : Value, v.IsOrderable → w.IsOrderable →
      ExactlyOne (v.compare? w = some .lt) (v.compare? w = some .eq) (w.compare? v = some .lt) := by
  intro h
  have hhuge : firstHuge.IsOrderable := .number (.int _)
  have hnone : firstHuge.compare? (.text "a") = none :=
    compare?_eq_none_iff.mpr (isComparable_firstHuge_text "a")
  have hnone' : Value.compare? (.text "a") firstHuge = none := by
    rw [compare?_eq_none_iff, isComparable_comm, isComparable_firstHuge_text]
  have hone := h firstHuge (.text "a") hhuge (.text "a")
  rw [hnone, hnone'] at hone
  simp [ExactlyOne] at hone

theorem exactlyOne_of_swap {v w : Value} (hcomparable : v.isComparable w)
    (h : w.order v = (v.order w).swap) :
    ExactlyOne (v.compare? w = some .lt) (v.compare? w = some .eq) (w.compare? v = some .lt) := by
  rw [ExactlyOne, compare?_comm v w h, compare?_of_isComparable hcomparable]
  cases v.order w <;> simp

end Value

/-! ## Conditions -/

/-- An operator of comparison and the one that asks the same of the target about the value. -/
inductive Operator.Mirrors : Operator → Operator → Prop
  | gt : Mirrors .gt .lt
  | gte : Mirrors .gte .lte

theorem Operator.Mirrors.holds_eq {op other : Operator} (h : Mirrors op other) {v w : Value}
    (hswap : w.order v = (v.order w).swap) : op.holds v w = other.holds w v := by
  cases h with
  | gt => rw [holds, holds, hswap, Ordering.isLT_swap]
  | gte => rw [holds, holds, hswap, Ordering.isLE_swap]

theorem Operator.Mirrors.answers_eq {op other : Operator} (h : Mirrors op other) (v w : Value) :
    op.answers v w = other.answers w v := by
  cases h with
  | gt | gte => exact Value.isComparable_comm v w

theorem Condition.test_ofOperator_swap {op other : Operator} (h : op.Mirrors other) {v w : Value}
    (hv : v.IsOrderable) (hw : w.IsOrderable) {r s : Record} {field otherField : String}
    (hr : r.get field = v) (hs : s.get otherField = w) :
    (ofOperator op w).test r field = (ofOperator other v).test s otherField := by
  rw [ofOperator, ofOperator, hv.normalize_eq, hw.normalize_eq, test, test, hr, hs,
    h.holds_eq (hv.order_swap hw), h.answers_eq]

/-- The order of two values is the reverse of their order from the other side, and they have none from
one side if they have none from the other. A value stands level with itself, and of two values that
can be compared exactly one of these holds: the first comes before the second, they stand level, the
second comes before the first. And a field is greater than a target just if a field with the target as
its value is less than the value of the first, and neither has an answer if the other one has none; so
for `gte` and `lte`. Values that can be written can be compared. -/
theorem Value.order_antisymmetric {v w : Value} (hv : v.IsOrderable) (hw : w.IsOrderable) :
    v.compare? w = (w.compare? v).map Ordering.swap ∧ v.compare? v = some .eq ∧
    (v.isComparable w →
      ExactlyOne (v.compare? w = some .lt) (v.compare? w = some .eq) (w.compare? v = some .lt)) ∧
    (v.isWritable → w.isWritable → v.isComparable w) ∧
    ∀ (r s : Record) (field otherField : String), r.get field = v → s.get otherField = w →
      (Condition.ofOperator .gt w).test r field =
        (Condition.ofOperator .lt v).test s otherField ∧
      (Condition.ofOperator .gte w).test r field =
        (Condition.ofOperator .lte v).test s otherField := by
  refine ⟨compare?_comm w v (hw.order_swap hv), ?_,
    fun hcomparable => exactlyOne_of_swap hcomparable (hv.order_swap hw),
    isComparable_of_isWritable v w, fun r s field otherField hr hs => ⟨?_, ?_⟩⟩
  · have hlevel : v.order v = .eq := Ordering.eq_eq_of_eq_swap (hv.order_swap hv)
    rw [compare?_of_isComparable hv.isComparable_self, hlevel]
  · exact Condition.test_ofOperator_swap .gt hv hw hr hs
  · exact Condition.test_ofOperator_swap .gte hv hw hr hs

/-- Two lists that differ in a number two levels down, past a boolean that is level with its text and
a date that is level with its literal. -/
theorem Value.order_antisymmetric_of_nested :
    let v : Value := .list [.bool true, .list [.date ⟨2024, 2, 1, "2024-02-01"⟩, .int 3, .null]]
    let w : Value := .list [.text "true", .list [.text "2024-02-01", .float (.infinite false)]]
    let r : Record := ⟨{}, .ofList [("depth", v)]⟩
    let s : Record := ⟨{}, .ofList [("limit", w)]⟩
    v.IsOrderable ∧ w.IsOrderable ∧ v.compare? w = some .lt ∧ w.compare? v = some .gt ∧
    v.compare? v = some .eq ∧
    ExactlyOne (v.compare? w = some .lt) (v.compare? w = some .eq) (w.compare? v = some .lt) ∧
    (Condition.ofOperator .lt v).test s "limit" = .ok (.bool false) ∧
    (Condition.ofOperator .gt w).test r "depth" = .ok (.bool false) := by
  intro v w r s
  have hv : v.IsOrderable := by
    refine .list (List.forall_mem_cons.mpr ⟨.bool true, List.forall_mem_singleton.mpr ?_⟩)
    refine .list (List.forall_mem_cons.mpr ⟨.date _, List.forall_mem_cons.mpr
      ⟨.number (.int 3), List.forall_mem_singleton.mpr .null⟩⟩)
  have hw : w.IsOrderable := by
    refine .list (List.forall_mem_cons.mpr ⟨.text _, List.forall_mem_singleton.mpr ?_⟩)
    refine .list (List.forall_mem_cons.mpr ⟨.text _, List.forall_mem_singleton.mpr ?_⟩)
    exact .number (.float (by simp))
  have horder : v.compare? w = some .lt := by rfl
  have htest : (Condition.ofOperator .lt v).test s "limit" = .ok (.bool false) := by rfl
  obtain ⟨-, hself, hone, hwritable, htests⟩ := order_antisymmetric hv hw
  refine ⟨hv, hw, horder, ?_, hself, hone (hwritable (by decide) (by decide)), htest, ?_⟩
  · rw [(order_antisymmetric hw hv).1, horder]
    rfl
  · rw [(htests r s "depth" "limit" rfl rfl).1, htest]

/-! ## Fields of notes -/

theorem Value.IsScalar.isOrderable {v : Value} (h : v.IsScalar) : v.IsOrderable := by
  cases h with
  | null => exact .null
  | number h => exact .number h
  | textual h =>
    cases h with
    | text s => exact .text s
    | bool b => exact .bool b
    | @date d _ => exact .date d

theorem Value.IsFlat.isOrderable {v : Value} (h : v.IsFlat) : v.IsOrderable := by
  cases h with
  | scalar h => exact h.isOrderable
  | list h => exact .list fun v hv => (h v hv).isOrderable

/-- The laws hold of any fields of any two notes. -/
theorem Document.order_swap_get (content path field content' path' field' : String) :
    ((record content' path').get field').order ((record content path).get field) =
      (((record content path).get field).order ((record content' path').get field')).swap :=
  (isFlat_get content path field).isOrderable.order_swap
    (isFlat_get content' path' field').isOrderable

end NoteQuery
