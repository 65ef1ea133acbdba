import NoteQuery.Proofs.Value.Comparators

/-!
# The order of two values seen from either side

Seen from the other side, two values stand in the reverse order. The only exception is `nan`, which
comes after every number from both sides, and so do lists that first differ by such a pair.

* `order_reversed`: the order of two values from both sides.
-/

namespace NoteQuery

open Std

namespace Value

/-- What two comparisons of the same values from either side may say: one is the reverse of the
other, or each value comes after the other. -/
def Reversed (o o' : Ordering) : Prop := o' = o.swap ∨ (o = .gt ∧ o' = .gt)

theorem reversed_then {o o' p p' : Ordering} (ho : Reversed o o') (hp : Reversed p p') :
    Reversed (o.then p) (o'.then p') := by
  rcases ho with rfl | ⟨rfl, rfl⟩
  · cases o with
    | eq => exact hp
    | lt => exact Or.inl rfl
    | gt => exact Or.inl rfl
  · exact Or.inr ⟨rfl, rfl⟩

/-! ## Values other than lists -/

theorem orderDates_swap (d e : DateLiteral) : orderDates e d = (orderDates d e).swap := by
  simp only [orderDates, Ordering.swap_then, Nat.compare_swap]

theorem swap_comparePoints (p q : Binary64.Point) : q.compare p = (p.compare q).swap := by
  have hsize : compare (sizeOfPoint q) (sizeOfPoint p) =
      (compare (sizeOfPoint p) (sizeOfPoint q)).swap := OrientedCmp.eq_swap
  rw [compare_points, compare_points, Ordering.swap_then, Nat.compare_swap, hsize]

theorem orderNumbers_reversed (v w : Value) : Reversed (orderNumbers v w) (orderNumbers w v) := by
  unfold orderNumbers
  cases v.point? with
  | none => cases w.point? <;> exact Or.inr ⟨rfl, rfl⟩
  | some p =>
    cases w.point? with
    | none => exact Or.inr ⟨rfl, rfl⟩
    | some q => exact Or.inl (swap_comparePoints p q)

theorem order_of_isNumber {v w : Value} (hv : v.isNumber) (hw : w.isNumber) :
    v.order w = orderNumbers v w := by
  cases v <;> cases hv <;> (cases w <;> cases hw <;> rfl)

theorem order_swap_of_not_numbers {v w : Value} (hlists : ¬ (v.IsList ∧ w.IsList))
    (hnumbers : (v.isNumber && w.isNumber) = false) : w.order v = (v.order w).swap := by
  by_cases hnv : v = .null
  · by_cases hnw : w = .null
    · subst hnv hnw
      rfl
    · rw [hnv, order_null_left hnw, order_null_right hnw]
      rfl
  by_cases hnw : w = .null
  · rw [hnw, order_null_left hnv, order_null_right hnv]
    rfl
  by_cases hdates : ∃ d e, v = .date d ∧ w = .date e
  · obtain ⟨d, e, rfl, rfl⟩ := hdates
    exact orderDates_swap d e
  · have hvw : v.order w = byText v w := order_eq_byText_of hnv hnw hnumbers hlists
      fun d e hd he => absurd ⟨d, e, hd, he⟩ hdates
    have hwv : w.order v = byText w v := order_eq_byText_of hnw hnv
      (Bool.and_comm _ _ ▸ hnumbers) (fun h => hlists h.symm)
      fun d e hd he => absurd ⟨e, d, he, hd⟩ hdates
    rw [hvw, hwv]
    exact OrientedCmp.eq_swap

theorem order_reversed_of_not_lists {v w : Value} (h : ¬ (v.IsList ∧ w.IsList)) :
    Reversed (v.order w) (w.order v) := by
  cases hnumbers : v.isNumber && w.isNumber with
  | true =>
    rw [Bool.and_eq_true] at hnumbers
    rw [order_of_isNumber hnumbers.1 hnumbers.2, order_of_isNumber hnumbers.2 hnumbers.1]
    exact orderNumbers_reversed v w
  | false => exact Or.inl (order_swap_of_not_numbers h hnumbers)

/-! ## All values -/

mutual

theorem order_reversed (v w : Value) : Reversed (v.order w) (w.order v) := by
  cases v with
  | list vs =>
    cases w with
    | list ws => exact orderItems_reversed vs ws
    | _ => exact order_reversed_of_not_lists (by rintro ⟨-, ws, hws⟩; cases hws)
  | _ => exact order_reversed_of_not_lists (by rintro ⟨⟨vs, hvs⟩, -⟩; cases hvs)

theorem orderItems_reversed (vs ws : List Value) :
    Reversed (orderItems vs ws) (orderItems ws vs) := by
  match vs, ws with
  | [], [] => exact Or.inl rfl
  | [], _ :: _ => exact Or.inl rfl
  | _ :: _, [] => exact Or.inl rfl
  | v :: vs, w :: ws => exact reversed_then (order_reversed v w) (orderItems_reversed vs ws)

end

end Value

end NoteQuery
