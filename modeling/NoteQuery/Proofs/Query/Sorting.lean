import NoteQuery.Proofs.MergeSort
import NoteQuery.Proofs.Value.Comparability
import NoteQuery.Query.Stages

/-!
# Sorting records

Sorting by a field puts the records in another order, with the records without a key last, as they
came, provided that the keys can be compared with each other. What the order of the others is depends on
their keys. If all keys are of one kind, any two records stand in the order of their keys, and records
with equal keys as they came, in both directions. Lists of texts and lists of numbers are two kinds:
where both stand among the keys there may be no such order.

* `sorted_nulls_last`: records without a key.
* `pairwise_sorted`, `filter_sorted`: keys with a linear comparison.
* `sort_eq_ok_iff`, `mutuallyComparable_of_isWritable`: when there is a result.
* `not_sort_spec_of_mixed_lists`: lists of texts among lists of numbers.
* `sort_spec`: all of it, for the kinds of keys.
-/

namespace NoteQuery

open Std

namespace SortOrder

/-- Whether records may stand in a sorted list with their keys comparing so. -/
def allows : SortOrder → Ordering → Bool
  | ascending, o => o.isLE
  | descending, o => o.isGE

/-- A comparison in the direction of sorting. -/
def direct (order : SortOrder) (cmp : Value → Value → Ordering) : Value → Value → Ordering :=
  match order with
  | ascending => cmp
  | descending => fun v w => cmp w v

instance {order : SortOrder} {cmp : Value → Value → Ordering} [TransCmp cmp] :
    TransCmp (order.direct cmp) := by
  cases order with
  | ascending => exact inferInstanceAs (TransCmp cmp)
  | descending => exact inferInstanceAs (TransCmp fun v w => cmp w v)

end SortOrder

/-- Records by the values of a field. -/
def Record.byField (field : String) (cmp : Value → Value → Ordering) : Record → Record → Ordering :=
  byImage (fun r => r.get field) cmp

instance {field : String} {cmp : Value → Value → Ordering} [TransCmp cmp] :
    TransCmp (Record.byField field cmp) :=
  inferInstanceAs (TransCmp (byImage (fun r : Record => r.get field) cmp))

namespace Stage

/-! ## Keys -/

theorem orderKeys_null_right (order : SortOrder) (v : Value) :
    (orderKeys order v .null).isLE := by
  cases order <;> cases v <;> rfl

theorem orderKeys_null_left (order : SortOrder) {v : Value} (h : v.isNull = false) :
    (orderKeys order .null v).isLE = false := by
  have hv : v ≠ .null := by
    rintro rfl
    cases h
  cases order with
  | ascending =>
    rw [orderKeys, Value.order_null_left hv]
    rfl
  | descending =>
    simp only [orderKeys, Value.isNull, Bool.true_or, if_true, Value.order_null_left hv]
    rfl

theorem isLE_orderKeys {order : SortOrder} {v w : Value} (hv : v.isNull = false)
    (hw : w.isNull = false) : (orderKeys order v w).isLE = order.allows (v.order w) := by
  cases order with
  | ascending => rfl
  | descending =>
    simp only [orderKeys, hv, hw, Bool.or_self, Bool.false_eq_true, if_false]
    exact Ordering.isLE_swap

theorem orderKeys_eq_eq {order : SortOrder} {v w : Value} :
    orderKeys order v w = .eq ↔ v.order w = .eq := by
  cases order with
  | ascending => rfl
  | descending =>
    simp only [orderKeys]
    split
    · rfl
    · exact Ordering.swap_eq_eq

theorem orderKeys_eq_nullsLast {cmp : Value → Value → Ordering} [TransCmp cmp] (order : SortOrder)
    {v w : Value} (h : v ≠ .null → w ≠ .null → v.order w = cmp v w) :
    orderKeys order v w = Value.nullsLast (order.direct cmp) v w := by
  cases order with
  | ascending => exact Value.order_eq_nullsLast h
  | descending =>
    simp only [orderKeys]
    split
    · rename_i hnull
      apply Value.order_eq_nullsLast
      intro hv hw
      simp [Value.isNull_eq_false hv, Value.isNull_eq_false hw] at hnull
    · rename_i hnull
      have hv : v ≠ .null := by
        rintro rfl
        exact hnull rfl
      have hw : w ≠ .null := by
        rintro rfl
        simp [Value.isNull] at hnull
      rw [Value.nullsLast_of_ne_null _ hv hw, h hv hw]
      exact OrientedCmp.eq_swap.symm

/-! ## Sorted lists -/

section Sorted

variable {field : String} {records : List Record}

theorem sorted_eq_mergeSort (hfield : field ≠ "") (order : SortOrder) (records : List Record) :
    sorted (some ⟨some field, order⟩) records =
      records.mergeSort fun r s => (orderKeys order (r.get field) (s.get field)).isLE :=
  if_neg hfield

theorem sorted_perm (s : Option Sorting) (records : List Record) : (sorted s records).Perm records := by
  unfold sorted
  split
  · split
    · exact List.Perm.refl _
    · exact List.mergeSort_perm _ _
  · exact List.Perm.refl _

/-- Records without a key come last, as they came, whatever the keys of the others are. -/
theorem sorted_nulls_last (hfield : field ≠ "") (order : SortOrder) (records : List Record) :
    ∃ front, sorted (some ⟨some field, order⟩) records =
        front ++ records.filter (fun r => (r.get field).isNull) ∧
      ∀ r ∈ front, (r.get field).isNull = false := by
  rw [sorted_eq_mergeSort hfield]
  apply MergeSort.mergeSort_last
  · intro r s hs
    rw [Value.eq_null hs]
    exact orderKeys_null_right order _
  · intro r s hr hs
    rw [Value.eq_null hr]
    exact orderKeys_null_left order hs

/-- The order of the keys of these records is that of `cmp`, nulls aside. -/
def Follows (field : String) (cmp : Value → Value → Ordering) (records : List Record) : Prop :=
  ∀ r ∈ records, ∀ s ∈ records, r.get field ≠ .null → s.get field ≠ .null →
    (r.get field).order (s.get field) = cmp (r.get field) (s.get field)

variable {cmp : Value → Value → Ordering} [TransCmp cmp]

theorem Follows.orderKeys_eq (h : Follows field cmp records) (order : SortOrder) :
    ∀ r ∈ records, ∀ s ∈ records,
      (orderKeys order (r.get field) (s.get field)).isLE =
        (Record.byField field (Value.nullsLast (order.direct cmp)) r s).isLE :=
  fun r hr s hs => congrArg Ordering.isLE (orderKeys_eq_nullsLast order (h r hr s hs))

theorem pairwise_sorted (hfield : field ≠ "") (h : Follows field cmp records) (order : SortOrder) :
    (sorted (some ⟨some field, order⟩) records).Pairwise fun r s =>
      (orderKeys order (r.get field) (s.get field)).isLE := by
  rw [sorted_eq_mergeSort hfield]
  have hkeys := h.orderKeys_eq order
  refine (MergeSort.pairwise_mergeSort_of_linear hkeys).imp_of_mem fun hr hs hle => ?_
  rw [hkeys _ (List.mem_mergeSort.mp hr) _ (List.mem_mergeSort.mp hs)]
  exact hle

/-- Records with equal keys stay in order. -/
theorem filter_sorted (hfield : field ≠ "") (h : Follows field cmp records) (order : SortOrder)
    {r : Record} (hr : r ∈ records) :
    (sorted (some ⟨some field, order⟩) records).filter
        (fun s => (s.get field).order (r.get field) == .eq) =
      records.filter fun s => (s.get field).order (r.get field) == .eq := by
  have hequal : ∀ s ∈ records, ((s.get field).order (r.get field) == .eq) =
      (Record.byField field (Value.nullsLast (order.direct cmp)) s r == .eq) := by
    intro s hs
    rw [Record.byField, byImage, ← orderKeys_eq_nullsLast order (h s hs r hr), Bool.eq_iff_iff,
      beq_iff_eq, beq_iff_eq, orderKeys_eq_eq]
  have hsorted : ∀ s ∈ sorted (some ⟨some field, order⟩) records, s ∈ records :=
    fun s hs => (sorted_perm _ _).mem_iff.mp hs
  rw [List.filter_congr hequal, List.filter_congr fun s hs => hequal s (hsorted s hs),
    sorted_eq_mergeSort hfield]
  exact MergeSort.filter_mergeSort_of_linear (h.orderKeys_eq order) r

end Sorted

/-! ## When there is a result -/

section Sortable

variable {s : Option Sorting} {keys : List Value} {records rs : List Record}

theorem pairwise_isComparable_of_isWritable (h : ∀ v ∈ keys, v.isWritable) :
    keys.Pairwise fun v w => v.isComparable w :=
  List.pairwise_of_forall_mem_list fun v hv w hw =>
    Value.isComparable_of_isWritable v w (h v hv) (h w hw)

theorem mutuallyComparable_iff :
    mutuallyComparable keys ↔ keys.Pairwise fun v w => v.isComparable w := by
  rw [mutuallyComparable, Bool.or_eq_true, List.all_eq_true, decide_eq_true_iff]
  exact or_iff_right_of_imp pairwise_isComparable_of_isWritable

theorem mutuallyComparable_of_isWritable (h : ∀ v ∈ keys, v.isWritable) :
    mutuallyComparable keys := mutuallyComparable_iff.mpr (pairwise_isComparable_of_isWritable h)

/-- Keys that can be compared with themselves, too, can be compared in all ways. -/
theorem isComparable_of_mutuallyComparable (h : mutuallyComparable keys)
    (hself : ∀ v ∈ keys, v.isComparable v) {v w : Value} (hv : v ∈ keys) (hw : w ∈ keys) :
    v.isComparable w := by
  have hpairwise := mutuallyComparable_iff.mp h
  refine hpairwise.forall_of_forall_of_flip hself (hpairwise.imp fun {a b} hab => ?_) hv hw
  rwa [flip, Value.isComparable_comm]

theorem sortable_congr {field : String} {others : List Record} (order : SortOrder)
    (h : (records.map fun r => r.get field) = others.map fun r => r.get field) :
    sortable (some ⟨some field, order⟩) records = sortable (some ⟨some field, order⟩) others := by
  rw [sortable, sortable, h]

theorem sort_eq_ok_iff : sort s records = .ok rs ↔ sortable s records ∧ rs = sorted s records := by
  rw [sort]
  cases sortable s records <;> simp [eq_comm]

theorem sort_eq_error_iff {e : ConditionError} :
    sort s records = .error e ↔ sortable s records = false ∧ e = .hugeInteger := by
  rw [sort]
  cases sortable s records <;> simp [eq_comm]

end Sortable

/-! ## Keys of one kind -/

/-- The list `[10]` comes before `["9"]`, which is level with `[9]`, so that a sorted list would have to
hold `[10]` before `[9]`. -/
theorem not_sort_spec_of_mixed_lists :
    ¬ ∀ (field : String) (order : SortOrder) (records sorted : List Record), field ≠ "" →
      (∀ r ∈ records, Value.Kind.texts.Has (r.get field) ∨ Value.Kind.numbers.Has (r.get field)) →
      sort (some ⟨some field, order⟩) records = .ok sorted →
      sorted.Pairwise (fun r s =>
        ∃ o, (r.get field).compare? (s.get field) = some o ∧ order.allows o) ∧
      ∀ r ∈ records,
        sorted.filter (fun s => (s.get field).compare? (r.get field) == some .eq) =
          records.filter fun s => (s.get field).compare? (r.get field) == some .eq := by
  intro h
  let record (v : Value) : Record := ⟨{}, .ofList [("k", .list [v])]⟩
  let ten := record (.int 10)
  let word := record (.text "9")
  let nine := record (.int 9)
  let records := [ten, record (.bool true), word, nine]
  have hkinds : ∀ r ∈ records,
      Value.Kind.texts.Has (r.get "k") ∨ Value.Kind.numbers.Has (r.get "k") := by
    have hnumber (i : Int) : Value.Kind.numbers.Has (.list [.int i]) :=
      ⟨_, rfl, List.forall_mem_singleton.mpr (Or.inr (.number (.int i)))⟩
    have htext {v : Value} (hv : v.IsTextual) : Value.Kind.texts.Has (.list [v]) :=
      ⟨_, rfl, List.forall_mem_singleton.mpr (Or.inr hv)⟩
    intro r hr
    simp only [records, List.mem_cons, List.not_mem_nil, or_false] at hr
    rcases hr with rfl | rfl | rfl | rfl
    · exact Or.inr (hnumber 10)
    · exact Or.inl (htext (.bool true))
    · exact Or.inl (htext (.text "9"))
    · exact Or.inr (hnumber 9)
  have hsortable : sortable (some ⟨some "k", .ascending⟩) records := by decide
  obtain ⟨hordered, hstable⟩ := h "k" .ascending records _ (by decide) hkinds
    (sort_eq_ok_iff.mpr ⟨hsortable, rfl⟩)
  have hmem : ten ∈ sorted (some ⟨some "k", .ascending⟩) records :=
    (sorted_perm _ _).mem_iff.mpr List.mem_cons_self
  generalize sorted (some ⟨some "k", .ascending⟩) records = rs at hordered hstable hmem
  -- The two records that are level stand as they came, the third one before the first of them.
  have hlevel : [word, nine].Sublist rs := by
    have hfilter : records.filter
        (fun s => (s.get "k").compare? (word.get "k") == some .eq) = [word, nine] := by
      rfl
    rw [← hfilter, ← hstable word (by simp [records])]
    exact List.filter_sublist
  obtain ⟨front, back, rfl, hword, hnine⟩ := List.cons_sublist_iff.mp hlevel
  have hnine := hnine.subset (List.mem_singleton_self nine)
  have hbetween := (List.pairwise_append.mp hordered).2.2
  rcases List.mem_append.mp hmem with hfront | hback
  · obtain ⟨o, ho, hle⟩ := hbetween ten hfront nine hnine
    have hgt : (ten.get "k").compare? (nine.get "k") = some .gt := by decide +kernel
    rw [hgt] at ho
    cases ho
    cases hle
  · obtain ⟨o, ho, hle⟩ := hbetween word hword ten hback
    have hgt : (word.get "k").compare? (ten.get "k") = some .gt := by decide +kernel
    rw [hgt] at ho
    cases ho
    cases hle

/-- Sorting by a field, if the keys can be compared with each other, puts the records in another order,
those without a key last and as they came. If the keys are of one kind, the others stand in the order of
their keys, and all records with equal keys stay in order. -/
theorem sort_spec {field : String} (hfield : field ≠ "") (order : SortOrder)
    (records : List Record) (hkeys : mutuallyComparable (records.map fun r => r.get field)) :
    ∃ sorted front, sort (some ⟨some field, order⟩) records = .ok sorted ∧ sorted.Perm records ∧
      sorted = front ++ records.filter (fun r => (r.get field).isNull) ∧
      (∀ r ∈ front, (r.get field).isNull = false) ∧
      ∀ kind : Value.Kind,
        (∀ r ∈ records, (r.get field).isNull = false → kind.Has (r.get field)) →
        front.Pairwise (fun r s =>
          ∃ o, (r.get field).compare? (s.get field) = some o ∧ order.allows o) ∧
        ∀ r ∈ records,
          sorted.filter (fun s => (s.get field).compare? (r.get field) == some .eq) =
            records.filter fun s => (s.get field).compare? (r.get field) == some .eq := by
  obtain ⟨front, hsort, hfront⟩ := sorted_nulls_last hfield order records
  have hsortable : sortable (some ⟨some field, order⟩) records := by
    rw [sortable, hkeys]
    exact Bool.or_true _
  have hperm : (sorted (some ⟨some field, order⟩) records).Perm records := sorted_perm _ _
  refine ⟨_, front, sort_eq_ok_iff.mpr ⟨hsortable, rfl⟩, hperm, hsort, hfront,
    fun kind hkind => ?_⟩
  obtain ⟨cmp, htrans, hcmp⟩ := kind.exists_comparison
  have hfollows : Follows field cmp records := fun r hr s hs hnr hns =>
    hcmp _ _ (hkind r hr (Value.isNull_eq_false hnr)) (hkind s hs (Value.isNull_eq_false hns))
  have hcomparable : ∀ r ∈ records, ∀ s ∈ records, (r.get field).isComparable (s.get field) := by
    have hself : ∀ v ∈ records.map (fun r => r.get field), v.isComparable v := by
      rw [List.forall_mem_map]
      intro r hr
      cases hnull : (r.get field).isNull with
      | true => rw [Value.eq_null hnull]; rfl
      | false => exact (hkind r hr hnull).isFlat.isComparable_self
    exact fun r hr s hs => isComparable_of_mutuallyComparable hkeys hself
      (List.mem_map_of_mem hr) (List.mem_map_of_mem hs)
  have hmem : ∀ {r : Record}, r ∈ sorted (some ⟨some field, order⟩) records → r ∈ records :=
    fun hr => hperm.mem_iff.mp hr
  refine ⟨?_, fun r hr => ?_⟩
  · have hpairwise := pairwise_sorted hfield hfollows order
    rw [hsort] at hpairwise
    refine (List.pairwise_append.mp hpairwise).1.imp_of_mem fun {r s} hr hs hle => ?_
    have hr' := hmem (hsort ▸ List.mem_append_left _ hr)
    have hs' := hmem (hsort ▸ List.mem_append_left _ hs)
    refine ⟨_, Value.compare?_of_isComparable (hcomparable r hr' s hs'), ?_⟩
    rwa [isLE_orderKeys (hfront _ hr) (hfront _ hs)] at hle
  · have hlevel : ∀ s ∈ records, ((s.get field).compare? (r.get field) == some .eq) =
        ((s.get field).order (r.get field) == .eq) := by
      intro s hs
      rw [Value.compare?_of_isComparable (hcomparable s hs r hr)]
      rfl
    rw [List.filter_congr hlevel, List.filter_congr fun s hs => hlevel s (hmem hs)]
    exact filter_sorted hfield hfollows order hr

theorem sort_spec_numbers :
    let records : List Record :=
      [⟨{}, .ofList [("n", .int 1)]⟩, ⟨{}, .empty⟩, ⟨{}, .ofList [("n", .bool true)]⟩,
        ⟨{}, .ofList [("n", .int 2)]⟩]
    "n" ≠ "" ∧ mutuallyComparable (records.map fun r => r.get "n") ∧
      (∀ r ∈ records, (r.get "n").isNull = false → Value.Kind.number.Has (r.get "n")) ∧
      ∃ sorted front, sort (some ⟨some "n", .descending⟩) records = .ok sorted ∧
        sorted = front ++ records.filter (fun r => (r.get "n").isNull) ∧
        front.Pairwise fun r s => ∃ o, (r.get "n").compare? (s.get "n") = some o ∧ o.isGE := by
  intro records
  have hfield : "n" ≠ "" := by decide
  have hkeys : mutuallyComparable (records.map fun r => r.get "n") := by decide
  have hkind : ∀ r ∈ records, (r.get "n").isNull = false →
      Value.Kind.number.Has (r.get "n") := by
    intro r hr hnull
    simp only [records, List.mem_cons, List.not_mem_nil, or_false] at hr
    rcases hr with rfl | rfl | rfl | rfl
    · exact Or.inl (.number (.int 1))
    · cases hnull
    · exact Or.inl (.bool true)
    · exact Or.inl (.number (.int 2))
  obtain ⟨sorted, front, hsort, -, happend, -, hrest⟩ := sort_spec hfield .descending records hkeys
  exact ⟨hfield, hkeys, hkind, sorted, front, hsort, happend, (hrest .number hkind).1⟩

end Stage

end NoteQuery
