import NoteQuery.Text.Basic

/-!
# Ends of texts

What follows the last separator of a text, and texts without a known end.

* `exists_afterLast`: a text is what follows its last separator, with something in front that ends in
  the separator.
* `afterLast_append`: what follows the last separator ends as the text does.
* `withoutEnd_append`, `withoutEnd_of_not_suffix`: taking an end off.
-/

namespace NoteQuery.Text

variable {sep : Char}

theorem afterLast_of_notMem {cs : List Char} (h : sep ∉ cs) : afterLast sep cs = cs := by
  rw [afterLast, List.splitOn_eq_singleton h]
  rfl

theorem afterLast_append_cons (front cs : List Char) :
    afterLast sep (front ++ sep :: cs) = afterLast sep cs := by
  have hsplit : (front ++ sep :: cs).splitOn sep = front.splitOn sep ++ cs.splitOn sep :=
    List.splitOnP_append_cons _ _ (beq_self_eq_true sep)
  have hlast := List.getLast?_eq_some_getLast (List.splitOn_ne_nil sep cs)
  rw [afterLast, afterLast, hsplit, List.getLastD_eq_getLast?, List.getLastD_eq_getLast?,
    List.getLast?_append, hlast]
  rfl

/-- What follows the last separator ends as the text does. -/
theorem afterLast_append {tail : List Char} (h : sep ∉ tail) (cs : List Char) :
    afterLast sep (cs ++ tail) = afterLast sep cs ++ tail := by
  by_cases hcs : sep ∈ cs
  · obtain ⟨front, rest, rfl⟩ := List.append_of_mem hcs
    have ih := afterLast_append h rest
    rw [List.append_assoc, List.cons_append, afterLast_append_cons, afterLast_append_cons, ih]
  · rw [afterLast_of_notMem hcs, afterLast_of_notMem]
    simp [hcs, h]
termination_by cs.length

theorem withoutEnd_append (cs tail : List Char) : withoutEnd tail (cs ++ tail) = cs := by
  have hsuffix : tail.isSuffixOf (cs ++ tail) :=
    List.isSuffixOf_iff_suffix.mpr (List.suffix_append cs tail)
  rw [withoutEnd, if_pos hsuffix, List.length_append, Nat.add_sub_cancel,
    List.take_left' rfl]

theorem withoutEnd_of_not_suffix {cs tail : List Char} (h : ¬ tail <:+ cs) :
    withoutEnd tail cs = cs := by
  rw [withoutEnd, if_neg]
  rwa [List.isSuffixOf_iff_suffix]

/-- What follows the last separator holds no separator, and what is in front ends in one. -/
theorem exists_afterLast (sep : Char) (cs : List Char) :
    ∃ front, cs = front ++ afterLast sep cs ∧ sep ∉ afterLast sep cs ∧
      (front = [] ∨ ∃ before, front = before ++ [sep]) := by
  by_cases hcs : sep ∈ cs
  · obtain ⟨start, rest, rfl⟩ := List.append_of_mem hcs
    obtain ⟨front, hrest, hnone, hfront⟩ := exists_afterLast sep rest
    rw [afterLast_append_cons]
    refine ⟨start ++ sep :: front, ?_, hnone, Or.inr ?_⟩
    · rw [List.append_assoc, List.cons_append, ← hrest]
    · rcases hfront with rfl | ⟨before, rfl⟩
      · exact ⟨start, rfl⟩
      · exact ⟨start ++ sep :: before, by simp⟩
  · exact ⟨[], (afterLast_of_notMem hcs).symm, (afterLast_of_notMem hcs).symm ▸ hcs, Or.inl rfl⟩
termination_by cs.length

end NoteQuery.Text
