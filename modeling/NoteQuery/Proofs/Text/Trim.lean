import NoteQuery.Text.Basic
import NoteQuery.Text.Digits

/-!
# Trimmed texts

What trimming takes off a text and which texts it leaves alone.

* `exists_trimStart`, `exists_trimEnd`: a text is its trimmed form with a run of blanks at that end.
* `trim_eq_self`: a text without a blank at either end is its own trimmed form.
* `trim_eq_nil_iff`: only texts of blanks are trimmed to nothing.
* `trim_append_blanks_end`, `trim_trimEnd`: blanks at the end of a text.
* `trim_trim`: a trimmed text has nothing left to trim.
-/

namespace NoteQuery.Text

/-! ## Digits and word characters -/

theorem toNat_of_isDigit {c : Char} (h : c.isDigit) : 48 ≤ c.toNat ∧ c.toNat ≤ 57 := by
  simpa [Char.isDigit, UInt32.le_iff_toNat_le, ← Char.toNat_val] using h

theorem isBlank_of_isDigit {c : Char} (h : c.isDigit) : isBlank c = false := by
  have hc := toNat_of_isDigit h
  simp [isBlank]
  omega

theorem isBlank_of_isWord {c : Char} (h : isWord c) : isBlank c = false := by
  have hc : 48 ≤ c.toNat ∧ c.toNat ≤ 122 := by
    simp [isWord, Char.le_def, UInt32.le_iff_toNat_le, Char.toNat_val] at h
    rcases h with ((h | h) | h) | rfl
    · omega
    · omega
    · omega
    · decide
  simp [isBlank]
  omega

/-! ## At the start -/

@[simp] theorem trimStart_nil : trimStart [] = [] := rfl

theorem trimStart_cons_of_blank {c : Char} (h : isBlank c) (cs : List Char) :
    trimStart (c :: cs) = trimStart cs := List.dropWhile_cons_of_pos h

theorem trimStart_cons_of_not_blank {c : Char} (h : isBlank c = false) (cs : List Char) :
    trimStart (c :: cs) = c :: cs := List.dropWhile_cons_of_neg (by simp [h])

theorem trimStart_append_blanks {bs : List Char} (h : ∀ c ∈ bs, isBlank c) (cs : List Char) :
    trimStart (bs ++ cs) = trimStart cs := List.dropWhile_append_of_pos h

theorem exists_trimStart (cs : List Char) : ∃ bs, cs = bs ++ trimStart cs ∧ ∀ c ∈ bs, isBlank c :=
  ⟨cs.takeWhile isBlank, List.takeWhile_append_dropWhile.symm,
    fun _ h => List.all_eq_true.mp List.all_takeWhile _ h⟩

theorem isBlank_head_trimStart {cs ds : List Char} {c : Char} (h : trimStart cs = c :: ds) :
    isBlank c = false := by
  have := List.head?_dropWhile_not isBlank cs
  rw [trimStart] at h
  simpa [h] using this

/-! ## At the end -/

@[simp] theorem trimEnd_nil : trimEnd [] = [] := rfl

theorem trimEnd_concat_of_not_blank (cs : List Char) {c : Char} (h : isBlank c = false) :
    trimEnd (cs ++ [c]) = cs ++ [c] := by
  induction cs with
  | nil => simp [trimEnd, h]
  | cons d ds ih =>
    rw [List.cons_append, trimEnd, ih]
    cases ds <;> rfl

theorem trimEnd_cons_of_not_blank {c : Char} (h : isBlank c = false) (cs : List Char) :
    trimEnd (c :: cs) = c :: trimEnd cs := by
  rw [trimEnd]
  split
  · rename_i ht
    simp [h, ht]
  · rename_i d ds ht
    rw [ht]

theorem exists_trimEnd (cs : List Char) : ∃ bs, cs = trimEnd cs ++ bs ∧ ∀ c ∈ bs, isBlank c := by
  induction cs with
  | nil => exact ⟨[], by simp⟩
  | cons c cs ih =>
    obtain ⟨bs, hcs, hbs⟩ := ih
    cases ht : trimEnd cs with
    | nil =>
      rw [ht, List.nil_append] at hcs
      subst hcs
      by_cases hc : isBlank c
      · exact ⟨c :: cs, by simp [trimEnd, ht, hc], by simpa [hc] using hbs⟩
      · exact ⟨cs, by simp [trimEnd, ht, hc], hbs⟩
    | cons d ds =>
      refine ⟨bs, ?_, hbs⟩
      rw [trimEnd, ht]
      simp only [List.cons_append]
      rw [← List.cons_append, ← ht, ← hcs]

theorem trimEnd_append_of_ne_nil {back : List Char} (h : trimEnd back ≠ []) (front : List Char) :
    trimEnd (front ++ back) = front ++ trimEnd back := by
  induction front with
  | nil => rfl
  | cons c front ih =>
    obtain ⟨d, ds, hcons⟩ := List.exists_cons_of_ne_nil (List.append_ne_nil_of_right_ne_nil front h)
    rw [List.cons_append, trimEnd, ih, List.cons_append, hcons]

theorem trimEnd_append_cons {c : Char} (h : isBlank c = false) (front back : List Char) :
    trimEnd (front ++ c :: back) = front ++ c :: trimEnd back := by
  have hcons := trimEnd_cons_of_not_blank h back
  rw [trimEnd_append_of_ne_nil (by simp [hcons]), hcons]

/-! ## At both ends -/

theorem trim_append_blanks {bs : List Char} (h : ∀ c ∈ bs, isBlank c) (cs : List Char) :
    trim (bs ++ cs) = trim cs := by
  rw [trim, trim, trimStart_append_blanks h]

theorem trim_cons_of_blank {c : Char} (h : isBlank c) (cs : List Char) :
    trim (c :: cs) = trim cs := by
  rw [trim, trim, trimStart_cons_of_blank h]

theorem trim_trimStart (cs : List Char) : trim (trimStart cs) = trim cs := by
  obtain ⟨bs, hcs, hbs⟩ := exists_trimStart cs
  calc trim (trimStart cs) = trim (bs ++ trimStart cs) := (trim_append_blanks hbs _).symm
    _ = trim cs := by rw [← hcs]

theorem trim_eq_self {cs : List Char} (hs : ∀ c ∈ cs.head?, isBlank c = false)
    (he : ∀ c ∈ cs.getLast?, isBlank c = false) : trim cs = cs := by
  have hstart : trimStart cs = cs := by
    cases cs with
    | nil => rfl
    | cons c cs => exact trimStart_cons_of_not_blank (hs c rfl) cs
  rw [trim, hstart]
  rcases List.eq_nil_or_concat cs with rfl | ⟨ds, d, rfl⟩
  · rfl
  · rw [List.concat_eq_append] at he ⊢
    exact trimEnd_concat_of_not_blank ds (he d (by simp))

/-- A text between two characters that are no blanks. -/
theorem trim_enclosed {c d : Char} (hc : isBlank c = false) (hd : isBlank d = false)
    (cs : List Char) : trim (c :: (cs ++ [d])) = c :: (cs ++ [d]) := by
  apply trim_eq_self
  · simpa using hc
  · rw [← List.cons_append, List.getLast?_concat]
    simpa using hd

theorem trim_eq_self_of_forall {cs : List Char} (h : ∀ c ∈ cs, isBlank c = false) :
    trim cs = cs :=
  trim_eq_self (fun c hc => h c (List.mem_of_mem_head? hc))
    (fun c hc => h c (List.mem_of_getLast? hc))

theorem trim_eq_nil_iff {cs : List Char} : trim cs = [] ↔ ∀ c ∈ cs, isBlank c := by
  constructor
  · intro h
    obtain ⟨bs, hcs, hbs⟩ := exists_trimStart cs
    obtain ⟨es, hes, hblank⟩ := exists_trimEnd (trimStart cs)
    rw [show trimEnd (trimStart cs) = [] from h, List.nil_append] at hes
    intro c hc
    rw [hcs, List.mem_append] at hc
    rcases hc with hc | hc
    · exact hbs c hc
    · exact hblank c (hes ▸ hc)
  · intro h
    have hstart : trimStart cs = [] := by
      have := trimStart_append_blanks h []
      rwa [List.append_nil, trimStart_nil] at this
    rw [trim, hstart, trimEnd_nil]

theorem mem_of_mem_trim {c : Char} {cs : List Char} (h : c ∈ trim cs) : c ∈ cs := by
  obtain ⟨bs, hcs, -⟩ := exists_trimStart cs
  obtain ⟨es, hes, -⟩ := exists_trimEnd (trimStart cs)
  rw [hcs, hes]
  exact List.mem_append_right _ (List.mem_append_left _ h)

/-- A trimmed text begins with the first character that is no blank. -/
theorem head?_trim (cs : List Char) : (trim cs).head? = (trimStart cs).head? := by
  rw [trim]
  cases h : trimStart cs with
  | nil => rfl
  | cons c ds => rw [trimEnd_cons_of_not_blank (isBlank_head_trimStart h)]; rfl

theorem trim_append_blanks_end {bs : List Char} (h : ∀ c ∈ bs, isBlank c) (cs : List Char) :
    trim (cs ++ bs) = trim cs := by
  rw [trim, trim, trimStart, trimStart, List.dropWhile_append]
  split
  · rename_i hempty
    rw [List.isEmpty_iff.mp hempty]
    exact trim_eq_nil_iff.mpr h
  · exact trimEnd_append_blanks _ h

theorem trim_trimEnd (cs : List Char) : trim (trimEnd cs) = trim cs := by
  obtain ⟨bs, hcs, hbs⟩ := exists_trimEnd cs
  calc trim (trimEnd cs) = trim (trimEnd cs ++ bs) := (trim_append_blanks_end hbs _).symm
    _ = trim cs := by rw [← hcs]

theorem trim_trim (cs : List Char) : trim (trim cs) = trim cs := by
  calc trim (trim cs) = trim (trimStart cs) := trim_trimEnd (trimStart cs)
    _ = trim cs := trim_trimStart cs

theorem trimEnd_ne_nil {cs : List Char} (h : trim cs ≠ []) : trimEnd cs ≠ [] := by
  intro hnil
  rw [← trim_trimEnd, hnil] at h
  exact h rfl

end NoteQuery.Text
