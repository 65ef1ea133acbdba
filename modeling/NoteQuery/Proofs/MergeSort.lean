import Mathlib.Data.List.Forall2

/-!
# Merge sort

Facts about merge sort on lists. Elements that the comparison puts behind all others come last
in their order, even if the comparison is otherwise no order at all. Where the comparison is a
linear one, the elements that are equal to a given one keep their order.

* `mergeSort_last`: elements that come last.
* `pairwise_mergeSort_of_mem`: comparisons that are total preorders on the elements of the list.
* `pairwise_mergeSort_of_linear`, `filter_mergeSort_of_linear`: comparisons that are linear on the
  elements of the list.
* `forall₂_mergeSort`: lists whose elements are related and compare alike, whatever the comparison.
-/

namespace NoteQuery.MergeSort

open List.MergeSort.Internal

variable {α : Type}

/-! ## Elements that come last -/

section Last

variable {le : α → α → Bool} {last : α → Bool}

theorem merge_of_not_le {ms ys : List α} (h : ∀ m ∈ ms, ∀ y ∈ ys, le m y = false)
    (ns : List α) : ms.merge (ys ++ ns) le = ys ++ ms.merge ns le := by
  induction ys with
  | nil => simp
  | cons y ys ih =>
    have ih := ih fun m hm z hz => h m hm z (List.mem_cons_of_mem _ hz)
    cases ms with
    | nil => simp
    | cons m ms =>
      have hle : le m y = false := h m List.mem_cons_self y List.mem_cons_self
      simp [hle, ih]

/-- Merging leaves the elements that come last behind the others. -/
theorem merge_append_last (hlast : ∀ a b, last b → le a b)
    (hfront : ∀ a b, last a → last b = false → le a b = false) {xs ys ms ns : List α}
    (hys : ∀ y ∈ ys, last y = false) (hms : ∀ m ∈ ms, last m) (hns : ∀ n ∈ ns, last n) :
    (xs ++ ms).merge (ys ++ ns) le = xs.merge ys le ++ (ms ++ ns) := by
  induction xs generalizing ys with
  | nil =>
    have hlow : ∀ m ∈ ms, ∀ y ∈ ys, le m y = false := fun m hm y hy =>
      hfront m y (hms m hm) (hys y hy)
    have hhigh : ∀ m n, m ∈ ms → n ∈ ns → le m n := fun m n _ hn => hlast m n (hns n hn)
    rw [List.nil_append, merge_of_not_le hlow, List.merge_of_le hhigh, List.nil_merge]
  | cons x xs ihx =>
    induction ys with
    | nil =>
      have hhigh : ∀ z n, z ∈ x :: xs ++ ms → n ∈ ns → le z n := fun z n _ hn =>
        hlast z n (hns n hn)
      rw [List.nil_append, List.merge_of_le hhigh, List.merge_right, List.append_assoc]
    | cons y ys ihy =>
      have ihx := ihx hys
      have ihy := ihy fun z hz => hys z (List.mem_cons_of_mem _ hz)
      simp only [List.cons_append, List.merge] at ihx ihy ⊢
      by_cases hle : le x y
      · simp [hle, ihx]
      · simp [hle, ihy]

/-- Sorting two elements or more is merging two sorted parts. -/
theorem exists_mergeSort_eq_merge (le : α → α → Bool) (a b : α) (l : List α) :
    ∃ front back, front ++ back = a :: b :: l ∧ front.length < (a :: b :: l).length ∧
      back.length < (a :: b :: l).length ∧
      (a :: b :: l).mergeSort le = (front.mergeSort le).merge (back.mergeSort le) le := by
  have hwhole := splitInTwo_fst_append_splitInTwo_snd ⟨a :: b :: l, rfl⟩
  have hfront := (splitInTwo ⟨a :: b :: l, rfl⟩).1.2
  have hback := (splitInTwo ⟨a :: b :: l, rfl⟩).2.2
  refine ⟨_, _, hwhole, ?_, ?_, by rw [List.mergeSort]⟩
  · rw [hfront]
    simp only [List.length_cons]
    omega
  · rw [hback]
    simp only [List.length_cons]
    omega

/-- Elements that come last in every comparison end up behind the others, in their order, whatever
the comparison says about the others. -/
theorem mergeSort_last (hlast : ∀ a b, last b → le a b)
    (hfront : ∀ a b, last a → last b = false → le a b = false) (l : List α) :
    ∃ front, l.mergeSort le = front ++ l.filter last ∧ ∀ a ∈ front, last a = false := by
  match l with
  | [] => exact ⟨[], by simp⟩
  | [a] =>
    cases h : last a with
    | true => exact ⟨[], by simp [h]⟩
    | false => exact ⟨[a], by simp [h]⟩
  | a :: b :: l =>
    -- the elements that come last do so in both parts, and merging moves them behind the others
    obtain ⟨xs, ys, hwhole, hxs, hys, hsort⟩ := exists_mergeSort_eq_merge le a b l
    obtain ⟨front, hx, hfx⟩ := mergeSort_last hlast hfront xs
    obtain ⟨back, hy, hby⟩ := mergeSort_last hlast hfront ys
    refine ⟨front.merge back le, ?_, fun c hc => ?_⟩
    · rw [hsort, hx, hy, ← hwhole, List.filter_append]
      exact merge_append_last hlast hfront hby (fun m hm => (List.mem_filter.mp hm).2)
        (fun n hn => (List.mem_filter.mp hn).2)
    · rcases List.mem_merge.mp hc with hc | hc
      · exact hfx c hc
      · exact hby c hc
termination_by l.length
decreasing_by
  · exact hxs
  · exact hys

end Last

/-! ## Preorders on the elements of a list -/

/-- It is enough that the comparison is a total preorder on the elements of the list. -/
theorem pairwise_mergeSort_of_mem {le : α → α → Bool} {l : List α}
    (htrans : ∀ a ∈ l, ∀ b ∈ l, ∀ c ∈ l, le a b → le b c → le a c)
    (htotal : ∀ a ∈ l, ∀ b ∈ l, (le a b || le b a) = true) :
    (l.mergeSort le).Pairwise fun a b => le a b := by
  let leMem : {a // a ∈ l} → {a // a ∈ l} → Bool := fun a b => le a.1 b.1
  have hsorted : (l.attach.mergeSort leMem).Pairwise fun a b => leMem a b :=
    List.pairwise_mergeSort (fun a b c => htrans a.1 a.2 b.1 b.2 c.1 c.2)
      (fun a b => htotal a.1 a.2 b.1 b.2) l.attach
  have hvalues : (l.attach.mergeSort leMem).map Subtype.val = l.mergeSort le := by
    rw [List.map_mergeSort (s := le) fun a _ b _ => rfl, List.attach_map_subtype_val]
  rw [← hvalues]
  exact List.pairwise_map.mpr hsorted

/-! ## Linear comparisons -/

section Linear

open Std

variable {le : α → α → Bool} {cmp : α → α → Ordering} [TransCmp cmp]

theorem mergeSort_congr {le' : α → α → Bool} {l : List α}
    (h : ∀ a ∈ l, ∀ b ∈ l, le a b = le' a b) : l.mergeSort le = l.mergeSort le' := by
  have := List.map_mergeSort (f := id) h
  rwa [List.map_id, List.map_id] at this

theorem isLE_total (a b : α) : ((cmp a b).isLE || (cmp b a).isLE) = true := by
  have hswap : cmp b a = (cmp a b).swap := OrientedCmp.eq_swap
  rw [hswap]
  cases cmp a b <;> rfl

theorem pairwise_mergeSort_of_linear {l : List α} (h : ∀ a ∈ l, ∀ b ∈ l, le a b = (cmp a b).isLE) :
    (l.mergeSort le).Pairwise fun a b => (cmp a b).isLE := by
  rw [mergeSort_congr h]
  exact List.pairwise_mergeSort (fun _ _ _ => TransCmp.isLE_trans) isLE_total l

/-- Elements that are equal keep their order. -/
theorem filter_mergeSort_of_linear {l : List α} (h : ∀ a ∈ l, ∀ b ∈ l, le a b = (cmp a b).isLE)
    (a : α) :
    (l.mergeSort le).filter (fun b => cmp b a == .eq) = l.filter fun b => cmp b a == .eq := by
  rw [mergeSort_congr h]
  have hequal : (l.filter fun b => cmp b a == .eq).Pairwise fun b c => (cmp b c).isLE := by
    apply List.pairwise_of_forall_mem_list
    intro b hb c hc
    have hb := eq_of_beq (List.mem_filter.mp hb).2
    have hc := eq_of_beq (List.mem_filter.mp hc).2
    rw [TransCmp.eq_trans hb (OrientedCmp.eq_symm hc)]
    rfl
  have hsub := List.sublist_mergeSort (fun _ _ _ => TransCmp.isLE_trans) isLE_total hequal
    List.filter_sublist
  have hsub := hsub.filter fun b => cmp b a == .eq
  rw [List.filter_filter] at hsub
  simp only [Bool.and_self] at hsub
  refine (hsub.eq_of_length ?_).symm
  exact (((List.mergeSort_perm l _).filter _).length_eq).symm

end Linear

/-! ## Related lists -/

/-- Elements that are related one by one, and compare alike, are moved alike. -/
theorem forall₂_mergeSort {β : Type} {R : α → β → Prop} {le : α → α → Bool} {le' : β → β → Bool}
    {l : List α} {m : List β} (h : List.Forall₂ R l m)
    (hle : ∀ a b c d, R a b → R c d → le a c = le' b d) :
    List.Forall₂ R (l.mergeSort le) (m.mergeSort le') := by
  obtain ⟨hlength, hpairs⟩ := List.forall₂_iff_zip.mp h
  -- both lists are the halves of one list of pairs, which is sorted by its first halves
  let pairLe : α × β → α × β → Bool := fun p q => le p.1 q.1
  have hfst : ((l.zip m).mergeSort pairLe).map Prod.fst = l.mergeSort le := by
    rw [List.map_mergeSort (s := le) fun p _ q _ => rfl, List.map_fst_zip (Nat.le_of_eq hlength)]
  have hsnd : ((l.zip m).mergeSort pairLe).map Prod.snd = m.mergeSort le' := by
    rw [List.map_mergeSort (s := le') fun p hp q hq => hle _ _ _ _ (hpairs hp) (hpairs hq),
      List.map_snd_zip (Nat.le_of_eq hlength.symm)]
  rw [← hfst, ← hsnd, List.forall₂_map_left_iff, List.forall₂_map_right_iff, List.forall₂_same]
  exact fun p hp => hpairs (List.mem_mergeSort.mp hp)

end NoteQuery.MergeSort
