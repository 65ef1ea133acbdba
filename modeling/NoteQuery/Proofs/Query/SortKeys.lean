import NoteQuery.Proofs.Query.Sorting

/-!
# Keys that can be sorted

The order of all values is no total preorder, but sorting needs one on the keys only. Where the keys
of the records can be compared and the order is a total preorder on them, any two records of the sorted
list stand in the order of their keys, in either direction.

* `Value.Comparable`: such keys. `Value.Kind.comparable`: keys of one kind are such.
* `pairwise_sorted_of_comparable`: the sorted list.
* `sorted_eq_self`: a list in order stays as it is.
-/

namespace NoteQuery

open Std

namespace Value

/-- These values can be compared, and the order is a total preorder on them. -/
structure Comparable (vs : List Value) : Prop where
  isComparable : ∀ v ∈ vs, ∀ w ∈ vs, v.isComparable w
  total : ∀ v ∈ vs, ∀ w ∈ vs, (v.order w).isLE ∨ (w.order v).isLE
  trans : ∀ u ∈ vs, ∀ v ∈ vs, ∀ w ∈ vs, (u.order v).isLE → (v.order w).isLE → (u.order w).isLE

theorem Comparable.mono {vs ws : List Value} (h : Comparable vs) (hsub : ∀ w ∈ ws, w ∈ vs) :
    Comparable ws where
  isComparable v hv w hw := h.isComparable v (hsub v hv) w (hsub w hw)
  total v hv w hw := h.total v (hsub v hv) w (hsub w hw)
  trans u hu v hv w hw := h.trans u (hsub u hu) v (hsub v hv) w (hsub w hw)

theorem Comparable.order_swap {vs : List Value} (h : Comparable vs) {v w : Value} (hv : v ∈ vs)
    (hw : w ∈ vs) : w.order v = (v.order w).swap := by
  rcases order_reversed v w with hswap | ⟨hvw, hwv⟩
  · exact hswap
  · have htotal := h.total v hv w hw
    rw [hvw, hwv] at htotal
    rcases htotal with hle | hle <;> cases hle

/-- Keys of one kind, nulls aside, are comparable if they can be written. -/
theorem Kind.comparable (kind : Kind) {vs : List Value} (hwritable : ∀ v ∈ vs, v.isWritable)
    (h : ∀ v ∈ vs, v.isNull = false → kind.Has v) : Comparable vs := by
  obtain ⟨cmp, htrans, hcmp⟩ := kind.exists_comparison
  have horder : ∀ v ∈ vs, ∀ w ∈ vs, v.order w = nullsLast cmp v w := fun v hv w hw =>
    order_eq_nullsLast fun hnv hnw =>
      hcmp v w (h v hv (isNull_eq_false hnv)) (h w hw (isNull_eq_false hnw))
  refine ⟨fun v hv w hw => isComparable_of_isWritable v w (hwritable v hv) (hwritable w hw),
    ?_, ?_⟩
  · intro v hv w hw
    rw [horder v hv w hw, horder w hw v hv, ← Bool.or_eq_true]
    exact MergeSort.isLE_total v w
  · intro u hu v hv w hw huv hvw
    rw [horder u hu v hv] at huv
    rw [horder v hv w hw] at hvw
    rw [horder u hu w hw]
    exact TransCmp.isLE_trans huv hvw

end Value

namespace Stage

variable {vs : List Value} {u v w : Value}

theorem allows_descending (h : Value.Comparable vs) (hv : v ∈ vs) (hw : w ∈ vs) :
    SortOrder.descending.allows (v.order w) = (w.order v).isLE := by
  rw [h.order_swap hv hw, Ordering.isLE_swap]
  rfl

theorem orderKeys_total (h : Value.Comparable vs) (order : SortOrder) (hv : v ∈ vs) (hw : w ∈ vs) :
    ((orderKeys order v w).isLE || (orderKeys order w v).isLE) = true := by
  rw [Bool.or_eq_true]
  cases hnv : v.isNull with
  | true =>
    rw [Value.eq_null hnv]
    exact Or.inr (orderKeys_null_right order w)
  | false =>
    cases hnw : w.isNull with
    | true =>
      rw [Value.eq_null hnw]
      exact Or.inl (orderKeys_null_right order v)
    | false =>
      rw [isLE_orderKeys hnv hnw, isLE_orderKeys hnw hnv]
      cases order with
      | ascending => exact h.total v hv w hw
      | descending =>
        rw [allows_descending h hv hw, allows_descending h hw hv]
        exact h.total w hw v hv

theorem not_null_of_isLE_orderKeys {order : SortOrder} (h : (orderKeys order v w).isLE)
    (hw : w.isNull = false) : v.isNull = false := by
  cases hv : v.isNull with
  | false => rfl
  | true =>
    rw [Value.eq_null hv, orderKeys_null_left order hw] at h
    cases h

theorem orderKeys_trans (h : Value.Comparable vs) (order : SortOrder) (hu : u ∈ vs) (hv : v ∈ vs)
    (hw : w ∈ vs) (huv : (orderKeys order u v).isLE) (hvw : (orderKeys order v w).isLE) :
    (orderKeys order u w).isLE := by
  cases hnw : w.isNull with
  | true =>
    rw [Value.eq_null hnw]
    exact orderKeys_null_right order u
  | false =>
    have hnv := not_null_of_isLE_orderKeys hvw hnw
    have hnu := not_null_of_isLE_orderKeys huv hnv
    rw [isLE_orderKeys hnu hnv] at huv
    rw [isLE_orderKeys hnv hnw] at hvw
    rw [isLE_orderKeys hnu hnw]
    cases order with
    | ascending => exact h.trans u hu v hv w hw huv hvw
    | descending =>
      rw [allows_descending h hu hv] at huv
      rw [allows_descending h hv hw] at hvw
      rw [allows_descending h hu hw]
      exact h.trans w hw v hv u hu hvw huv

variable {field : String} {records : List Record}

theorem pairwise_sorted_of_comparable (hfield : field ≠ "")
    (h : Value.Comparable (records.map fun r => r.get field)) (order : SortOrder) :
    (sorted (some ⟨some field, order⟩) records).Pairwise fun r s =>
      (orderKeys order (r.get field) (s.get field)).isLE := by
  have hkey : ∀ r ∈ records, r.get field ∈ records.map fun r => r.get field :=
    fun r hr => List.mem_map_of_mem hr
  rw [sorted_eq_mergeSort hfield]
  apply MergeSort.pairwise_mergeSort_of_mem
  · intro r hr s hs t ht
    exact orderKeys_trans h order (hkey r hr) (hkey s hs) (hkey t ht)
  · intro r hr s hs
    exact orderKeys_total h order (hkey r hr) (hkey s hs)

theorem sorted_eq_self (order : SortOrder)
    (h : records.Pairwise fun r s => (orderKeys order (r.get field) (s.get field)).isLE) :
    sorted (some ⟨some field, order⟩) records = records := by
  by_cases hfield : field = ""
  · exact if_pos hfield
  · rw [sorted_eq_mergeSort hfield]
    exact List.mergeSort_of_pairwise h

end Stage

end NoteQuery
