import Mathlib.Algebra.Group.Nat.Defs
import Mathlib.Data.List.Induction
import NoteQuery.Proofs.Text.Trim
import NoteQuery.Text.Digits

/-!
# Digits of numbers

The digits of a number begin with no zero, and a run of digits is the digits of the number that it
writes behind some zeros.

* `length_toDigits_eq`, `bounds_of_length_toDigits`, `length_toDigits_mono`: how many digits a number
  has.
* `exists_cons_toDigits`, `exists_concat_toDigits`, `toDigits_mul_pow`: the first digit and the last
  ones.
* `exists_zeros_append`: runs of digits.
-/

namespace NoteQuery.Text

theorem exists_length_toDigits (n : Nat) : ∃ k, (Nat.toDigits 10 n).length = k + 1 :=
  Nat.exists_eq_add_one_of_ne_zero (Nat.ne_of_gt Nat.length_toDigits_pos)

theorem length_toDigits_eq {n k : Nat} (hle : 10 ^ k ≤ n) (hlt : n < 10 ^ (k + 1)) :
    (Nat.toDigits 10 n).length = k + 1 := by
  refine Nat.le_antisymm ((Nat.length_toDigits_le_iff (by decide) (by omega)).mpr hlt) ?_
  rcases Nat.eq_zero_or_pos k with rfl | hk
  · exact Nat.length_toDigits_pos
  · rw [Nat.add_one_le_iff, ← Nat.not_le, Nat.length_toDigits_le_iff (by decide) hk]
    exact Nat.not_lt.mpr hle

theorem bounds_of_length_toDigits {n k : Nat} (h : 0 < n)
    (hlength : (Nat.toDigits 10 n).length = k + 1) : 10 ^ k ≤ n ∧ n < 10 ^ (k + 1) := by
  constructor
  · rcases Nat.eq_zero_or_pos k with rfl | hk
    · exact h
    · rw [← Nat.not_lt, ← Nat.length_toDigits_le_iff (by decide) hk]
      omega
  · rw [← Nat.length_toDigits_le_iff (by decide) (by omega)]
    omega

/-- A greater number has no fewer digits. -/
theorem length_toDigits_mono {m n : Nat} (h : m ≤ n) :
    (Nat.toDigits 10 m).length ≤ (Nat.toDigits 10 n).length := by
  rw [Nat.length_toDigits_le_iff (by decide) Nat.length_toDigits_pos]
  have hn := (Nat.length_toDigits_le_iff (by decide) Nat.length_toDigits_pos).mp
    (Nat.le_refl (Nat.toDigits 10 n).length)
  exact Nat.lt_of_le_of_lt h hn

theorem pos_of_not_dvd {n : Nat} (h : ¬ 10 ∣ n) : 0 < n :=
  Nat.pos_of_ne_zero fun hn => h (hn ▸ Nat.dvd_zero 10)

theorem digitChar_ne_zero : ∀ n < 10, n ≠ 0 → n.digitChar ≠ '0' := by decide

theorem exists_cons_toDigits {n : Nat} (h : 0 < n) :
    ∃ c cs, Nat.toDigits 10 n = c :: cs ∧ c ≠ '0' := by
  induction n using Nat.strongRecOn with
  | ind n ih =>
    rw [Nat.toDigits_eq_if (by decide)]
    split
    · rename_i hlt
      exact ⟨_, [], rfl, digitChar_ne_zero n hlt (Nat.ne_of_gt h)⟩
    · obtain ⟨c, cs, hcs, hc⟩ := ih (n / 10) (by omega) (by omega)
      rw [hcs]
      exact ⟨c, _, rfl, hc⟩

theorem exists_concat_toDigits {n : Nat} (h : ¬ 10 ∣ n) :
    ∃ cs c, Nat.toDigits 10 n = cs ++ [c] ∧ c ≠ '0' := by
  have hlast : (n % 10).digitChar ≠ '0' :=
    digitChar_ne_zero _ (Nat.mod_lt n (by decide)) fun hmod => h (Nat.dvd_of_mod_eq_zero hmod)
  rw [Nat.toDigits_eq_if (by decide)]
  split
  · rename_i hlt
    rw [Nat.mod_eq_of_lt hlt] at hlast
    exact ⟨[], _, rfl, hlast⟩
  · exact ⟨_, _, rfl, hlast⟩

theorem toDigits_mul_pow {n : Nat} (h : 0 < n) (k : Nat) :
    Nat.toDigits 10 (n * 10 ^ k) = Nat.toDigits 10 n ++ List.replicate k '0' := by
  induction k with
  | zero => simp
  | succ k ih =>
    have hpos : 0 < n * 10 ^ k := Nat.mul_pos h (Nat.pow_pos (by decide))
    have hnext : n * 10 ^ (k + 1) = 10 * (n * 10 ^ k) + 0 := by
      rw [Nat.pow_succ, ← Nat.mul_assoc, Nat.mul_comm, Nat.add_zero]
    rw [hnext, ← Nat.toDigits_append_toDigits (by decide) hpos (by decide), ih,
      List.replicate_succ', List.append_assoc, Nat.toDigits_zero]

/-! ## Runs of digits -/

theorem toDigits_toNat {c : Char} (h : c.isDigit) :
    c.toNat - '0'.toNat < 10 ∧ Nat.toDigits 10 (c.toNat - '0'.toNat) = [c] := by
  obtain ⟨hlow, hhigh⟩ := toNat_of_isDigit h
  have hdigits : ∀ n < 58, 48 ≤ n → n - 48 < 10 ∧ Nat.toDigits 10 (n - 48) = [Char.ofNat n] := by
    decide
  have hc := hdigits c.toNat (by omega) hlow
  rwa [Char.ofNat_toNat] at hc

theorem natOfDigits_concat (ds : List Char) (c : Char) :
    natOfDigits (ds ++ [c]) = 10 * natOfDigits ds + (c.toNat - '0'.toNat) := by
  rw [natOfDigits, Nat.ofDigitChars_append, Nat.ofDigitChars_cons]
  rfl

/-- A run of digits is the digits of the number that it writes, behind some zeros. -/
theorem exists_zeros_append {ds : List Char} (hdigit : ∀ c ∈ ds, c.isDigit) (hne : ds ≠ []) :
    ∃ k, ds = List.replicate k '0' ++ Nat.toDigits 10 (natOfDigits ds) := by
  -- The digits are taken from the front, so that each one comes to the end of the number.
  induction ds using List.reverseRecOn with
  | nil => exact absurd rfl hne
  | append_singleton ds c ih =>
    obtain ⟨hlt, hc⟩ := toDigits_toNat (hdigit c (by simp))
    rw [natOfDigits_concat]
    rcases eq_or_ne ds [] with rfl | hds
    · exact ⟨0, by simpa [natOfDigits] using hc.symm⟩
    · obtain ⟨k, hk⟩ := ih (fun d hd => hdigit d (by simp [hd])) hds
      rcases Nat.eq_zero_or_pos (natOfDigits ds) with hzero | hpos
      · rw [hzero, Nat.toDigits_zero] at hk
        refine ⟨k + 1, ?_⟩
        rw [hzero, Nat.mul_zero, Nat.zero_add, hc, List.replicate_succ', ← hk]
      · refine ⟨k, ?_⟩
        rw [← Nat.toDigits_append_toDigits (by decide) hpos hlt, hc, ← List.append_assoc, ← hk]

end NoteQuery.Text
