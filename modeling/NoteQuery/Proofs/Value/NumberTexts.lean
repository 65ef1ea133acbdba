import NoteQuery.Proofs.Note.ScalarTexts
import NoteQuery.Proofs.Text.Order
import NoteQuery.Value.Order

/-!
# The texts of numbers

Where the texts of numbers stand among the texts: `false` comes after all of them but `inf`, and
`true` after `inf`.

* `isNumberChar_of_mem_write`: the characters of a finite number, all of which come before `f`.
* `exists_plainChars`: the same for numbers as values.
-/

namespace NoteQuery

namespace Binary64

/-- The characters of finite numbers. -/
def IsNumberChar (c : Char) : Prop := c.isDigit ∨ c = '+' ∨ c = '-' ∨ c = '.' ∨ c = 'e'

theorem IsNumberChar.lt {c : Char} (h : IsNumberChar c) : c < 'f' := by
  rcases h with h | rfl | rfl | rfl | rfl
  · have := (Text.toNat_of_isDigit h).2
    have hf : 'f'.toNat = 102 := rfl
    rw [Char.lt_def, UInt32.lt_iff_toNat_lt, Char.toNat_val, Char.toNat_val]
    omega
  all_goals decide

theorem isDigit_of_mem_zeros {n : Nat} {c : Char} (h : c ∈ zeros n) : c.isDigit := by
  obtain ⟨-, rfl⟩ := List.mem_replicate.mp h
  decide

theorem isDigit_of_mem_padded {width n : Nat} {c : Char} (h : c ∈ padded width n) : c.isDigit := by
  rcases List.mem_append.mp h with h | h
  · exact isDigit_of_mem_zeros h
  · exact Scalar.isDigit_of_mem_toDigits h

theorem isNumberChar_of_mem_positional {ds : List Char} (hds : ∀ d ∈ ds, d.isDigit) {place : Int}
    {c : Char} (h : c ∈ positional ds place) : IsNumberChar c := by
  unfold positional at h
  split at h
  · simp only [List.mem_append, List.mem_cons] at h
    rcases h with (rfl | rfl | h) | h
    · exact .inl (by decide)
    · simp [IsNumberChar]
    · exact .inl (isDigit_of_mem_zeros h)
    · exact .inl (hds c h)
  · simp only [List.mem_append, List.mem_cons] at h
    rcases h with (h | h) | rfl | h
    · exact .inl (hds c (List.mem_of_mem_take h))
    · exact .inl (isDigit_of_mem_zeros h)
    · simp [IsNumberChar]
    · split at h
      · rw [List.mem_singleton] at h
        subst h
        exact .inl (by decide)
      · exact .inl (hds c (List.mem_of_mem_drop h))

theorem isNumberChar_of_mem_scientific {n : Nat} {ds : List Char} (hds : ∀ d ∈ ds, d.isDigit)
    {place : Int} {c : Char} (h : c ∈ scientific n ds place) : IsNumberChar c := by
  unfold scientific at h
  simp only [List.mem_append, List.mem_cons] at h
  rcases h with h | rfl | h | h
  · split at h
    · simp only [List.mem_cons] at h
      rcases h with rfl | rfl | rfl | h
      · exact .inl (hds _ (by simp))
      · simp [IsNumberChar]
      · exact .inl (hds _ (by simp))
      · exact .inl (hds c (by simp [h]))
    · exact .inl (hds c h)
  · simp [IsNumberChar]
  · split at h <;> simp [IsNumberChar, h]
  · exact .inl (isDigit_of_mem_padded h)

theorem isNumberChar_of_mem_write {layout : Layout} {negative : Bool} {units : Nat} {c : Char}
    (h : c ∈ layout.write negative units) : IsNumberChar c := by
  have hsign : ∀ {d : Char}, d ∈ (if negative then ['-'] else []) → IsNumberChar d := by
    cases negative <;> simp [IsNumberChar]
  unfold Layout.write at h
  dsimp only at h
  split at h
  · rcases List.mem_append.mp h with h | h
    · exact hsign h
    · simp only [List.mem_cons, List.not_mem_nil, or_false] at h
      rcases h with rfl | rfl | rfl
      · exact .inl (by decide)
      · simp [IsNumberChar]
      · exact .inl (by decide)
  · rcases List.mem_append.mp h with h | h
    · exact hsign h
    · have hds : ∀ d ∈ ((Nat.toDigits 10 (shortest units).digits).reverse.dropWhile
          (· == '0')).reverse, d.isDigit := by
        intro d hd
        rw [List.mem_reverse] at hd
        have := (List.dropWhile_sublist _).mem hd
        exact Scalar.isDigit_of_mem_toDigits (List.mem_reverse.mp this)
      split at h
      · exact isNumberChar_of_mem_positional hds h
      · exact isNumberChar_of_mem_scientific hds h

theorem write_ne_nil (layout : Layout) (negative : Bool) (units : Nat) :
    layout.write negative units ≠ [] := by
  unfold Layout.write
  dsimp only
  split
  · simp
  · apply List.append_ne_nil_of_right_ne_nil
    split
    · unfold positional
      split <;> simp
    · simp [scientific]

theorem exists_chars_finite (negative : Bool) (units : Nat) :
    ∃ c cs, (finite negative units).chars = c :: cs ∧ c < 'f' := by
  obtain ⟨c, cs, hchars⟩ := List.exists_cons_of_ne_nil (write_ne_nil textLayout negative units)
  have hmem : c ∈ textLayout.write negative units := hchars ▸ List.mem_cons_self
  exact ⟨c, cs, hchars, (isNumberChar_of_mem_write hmem).lt⟩

end Binary64

namespace Value

/-- The text of a number other than positive infinity. -/
theorem exists_plainChars {v : Value} {p : Binary64.Point} (h : v.point? = some p)
    (hp : p ≠ .greatest) : ∃ c cs, v.plainChars = c :: cs ∧ c < 'f' := by
  cases v with
  | int i =>
    have hdigits := List.exists_cons_of_ne_nil (Nat.toDigits_ne_nil (b := 10) (n := i.natAbs))
    obtain ⟨c, cs, hdigits⟩ := hdigits
    by_cases hneg : i < 0
    · refine ⟨'-', Nat.toDigits 10 i.natAbs, ?_, by decide⟩
      simp [plainChars, bareChars, literalChars, intChars, hneg]
    · have hc : c.isDigit := Scalar.isDigit_of_mem_toDigits (hdigits ▸ List.mem_cons_self)
      refine ⟨c, cs, ?_, Binary64.IsNumberChar.lt (.inl hc)⟩
      simp [plainChars, bareChars, literalChars, intChars, hneg, hdigits]
  | float x =>
    cases x with
    | nan => cases h
    | infinite negative =>
      cases negative with
      | true => exact ⟨'-', "inf".toList, rfl, by decide⟩
      | false =>
        cases h
        exact absurd rfl hp
    | finite negative units => exact Binary64.exists_chars_finite negative units
  | _ => cases h

theorem plainChars_of_greatest {v : Value} (h : v.point? = some .greatest) :
    v.plainChars = "inf".toList := by
  cases v with
  | float x =>
    cases x with
    | infinite negative =>
      cases negative with
      | true => cases h
      | false => rfl
    | _ => cases h
  | _ => cases h

end Value

end NoteQuery
