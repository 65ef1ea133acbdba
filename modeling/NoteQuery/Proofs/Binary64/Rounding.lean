import Mathlib.Tactic.Linarith
import Mathlib.Tactic.Ring
import NoteQuery.Binary64.Shortest

/-!
# Rounding to binary64 numbers

Reading a decimal rounds it to a binary64 number, and writing a number asks which decimals round to
it. The two agree: what a fraction of units is rounded to is a number to which the fraction rounds.

* `IsNearest`, `isNearest_roundDiv`, `roundDiv_eq`: the nearest whole number.
* `exists_roundUnits`: the result as a significand of 53 binary digits and a power of two.
* `roundsTo_roundUnits`: reading and writing agree.
* `near_of_roundsTo`: a fraction that rounds to a number is within half a gap of it.
-/

namespace NoteQuery.Binary64

/-! ## The nearest whole number -/

/-- The whole number `n` is at most a half away from `num / den`, and even if it is a half. -/
structure IsNearest (num den n : Nat) : Prop where
  lower : 2 * n * den ≤ 2 * num + den
  upper : 2 * num ≤ (2 * n + 1) * den
  even : 2 * n * den = 2 * num + den ∨ 2 * num = (2 * n + 1) * den → n % 2 = 0

theorem isNearest_roundDiv (num : Nat) {den : Nat} (h : 0 < den) :
    IsNearest num den (roundDiv num den) := by
  have hnum : den * (num / den) + num % den = num := Nat.div_add_mod num den
  have hrest : num % den < den := Nat.mod_lt num h
  unfold roundDiv
  generalize num / den = q at hnum
  generalize num % den = r at hnum hrest
  dsimp only
  have hself : 2 * q * den = 2 * (den * q) ∧ (2 * q + 1) * den = 2 * (den * q) + den :=
    ⟨by ring, by ring⟩
  have hnext : 2 * (q + 1) * den = 2 * (den * q) + 2 * den ∧
      (2 * (q + 1) + 1) * den = 2 * (den * q) + 3 * den := ⟨by ring, by ring⟩
  split
  · exact ⟨by omega, by omega, by omega⟩
  · split
    · exact ⟨by omega, by omega, by omega⟩
    · rcases Nat.mod_two_eq_zero_or_one q with hq | hq
      · rw [hq, Nat.add_zero]
        exact ⟨by omega, by omega, fun _ => hq⟩
      · rw [hq]
        exact ⟨by omega, by omega, by omega⟩

/-- A whole number less than a half away is the nearest. -/
theorem roundDiv_eq {num den n : Nat} (hlower : 2 * n * den < 2 * num + den)
    (hupper : 2 * num < (2 * n + 1) * den) : roundDiv num den = n := by
  have hden : 0 < den := Nat.pos_of_ne_zero (by rintro rfl; simp at hupper)
  have hnear := isNearest_roundDiv num hden
  have hle : (2 * roundDiv num den) * den < (2 * n + 2) * den := by
    have hsplit : (2 * n + 2) * den = (2 * n + 1) * den + den := by ring
    have := hnear.lower
    omega
  have hge : (2 * n) * den < (2 * roundDiv num den + 2) * den := by
    have hsplit : (2 * roundDiv num den + 2) * den = (2 * roundDiv num den + 1) * den + den := by
      ring
    have := hnear.upper
    omega
  have := Nat.lt_of_mul_lt_mul_right hle
  have := Nat.lt_of_mul_lt_mul_right hge
  omega

/-! ## Binary lengths -/

theorem bitLength_le_iff {n k : Nat} : bitLength n ≤ k ↔ n < 2 ^ k := by
  unfold bitLength
  split
  · rename_i hn
    subst hn
    simp
  · rename_i hn
    rw [Nat.add_one_le_iff, Nat.log2_lt hn]

theorem lt_bitLength_iff {n k : Nat} : k < bitLength n ↔ 2 ^ k ≤ n := by
  rw [← Nat.not_le, bitLength_le_iff, Nat.not_lt]

theorem gap_eq (units : Nat) : gap units = 2 ^ (bitLength units - 53) := rfl

theorem gap_pos (units : Nat) : 0 < gap units := Nat.two_pow_pos _

/-- The gap behind a significand of 53 binary digits. -/
theorem gap_mul_pow {r s : Nat} (hr : r < 2 ^ 53) (hs : s = 0 ∨ 2 ^ 52 ≤ r) :
    gap (r * 2 ^ s) = 2 ^ s := by
  have hle : bitLength (r * 2 ^ s) ≤ 53 + s := by
    rw [bitLength_le_iff, Nat.pow_add]
    exact Nat.mul_lt_mul_of_pos_right hr (Nat.two_pow_pos s)
  rw [gap_eq]
  rcases hs with rfl | hs
  · rw [Nat.sub_eq_zero_of_le hle]
  · have hlt : 52 + s < bitLength (r * 2 ^ s) := by
      rw [lt_bitLength_iff, Nat.pow_add]
      exact Nat.mul_le_mul_right _ hs
    have hlength : bitLength (r * 2 ^ s) - 53 = s := by omega
    rw [hlength]

/-- Numbers whose gap is more than a unit have 53 binary digits before it. -/
theorem gap_eq_one_or (units : Nat) : gap units = 1 ∨ 2 ^ 52 * gap units ≤ units := by
  rw [gap_eq]
  rcases Nat.lt_or_ge 53 (bitLength units) with h | h
  · right
    rw [← Nat.pow_add, ← lt_bitLength_iff]
    omega
  · left
    rw [Nat.sub_eq_zero_of_le h, Nat.pow_zero]

/-! ## Rounding units -/

/-- The number of binary digits that are dropped. -/
def droppedDigits (num den : Nat) : Nat := bitLength (num / den) - 53

theorem roundUnits_eq (num den : Nat) :
    roundUnits num den =
      roundDiv num (den * 2 ^ droppedDigits num den) * 2 ^ droppedDigits num den := rfl

theorem roundDiv_mul (num den : Nat) {c : Nat} (h : 0 < c) :
    roundDiv (c * num) (c * den) = roundDiv num den := by
  unfold roundDiv
  rw [Nat.mul_div_mul_left _ _ h, Nat.mul_mod_mul_left, Nat.mul_left_comm]
  simp only [Nat.mul_lt_mul_left h]

/-- Only the fraction counts, not how it is written. -/
theorem roundUnits_mul (num den : Nat) {c : Nat} (h : 0 < c) :
    roundUnits (c * num) (c * den) = roundUnits num den := by
  have hdropped : droppedDigits (c * num) (c * den) = droppedDigits num den := by
    rw [droppedDigits, Nat.mul_div_mul_left _ _ h, droppedDigits]
  rw [roundUnits_eq, roundUnits_eq, hdropped, Nat.mul_assoc, roundDiv_mul _ _ h]

/-- If digits are dropped, the fraction has at least 53 of them before the last one. -/
theorem le_of_droppedDigits {num den : Nat} (h : 0 < den) (hs : droppedDigits num den ≠ 0) :
    2 ^ 52 * (den * 2 ^ droppedDigits num den) ≤ num := by
  have hquot : 2 ^ (52 + droppedDigits num den) ≤ num / den := by
    unfold droppedDigits at hs ⊢
    exact lt_bitLength_iff.mp (by omega)
  rw [Nat.le_div_iff_mul_le h, Nat.pow_add] at hquot
  exact Nat.le_trans (Nat.le_of_eq (by ring)) hquot

theorem lt_of_droppedDigits (num : Nat) {den : Nat} (h : 0 < den) :
    num < 2 ^ 53 * (den * 2 ^ droppedDigits num den) := by
  have hquot : num / den < 2 ^ (53 + droppedDigits num den) := by
    unfold droppedDigits
    exact bitLength_le_iff.mp (by omega)
  rw [Nat.div_lt_iff_lt_mul h, Nat.pow_add] at hquot
  exact Nat.lt_of_lt_of_eq hquot (by ring)

/-- A significand, which has 53 binary digits if any were dropped; the largest one stands for the
next power of two. -/
theorem exists_roundUnits (num : Nat) {den : Nat} (h : 0 < den) :
    ∃ r s, roundUnits num den = r * 2 ^ s ∧ IsNearest num (den * 2 ^ s) r ∧ r ≤ 2 ^ 53 ∧
      (s = 0 ∨ 2 ^ 52 ≤ r ∧ 2 ^ 52 * (den * 2 ^ s) ≤ num) := by
  have hpos : 0 < den * 2 ^ droppedDigits num den := Nat.mul_pos h (Nat.two_pow_pos _)
  have hnear := isNearest_roundDiv num hpos
  refine ⟨_, droppedDigits num den, roundUnits_eq num den, hnear, ?_, ?_⟩
  · have hlt := lt_of_droppedDigits num h
    have hlower := hnear.lower
    generalize den * 2 ^ droppedDigits num den = step at *
    have hbound : (2 * roundDiv num step) * step < (2 * 2 ^ 53 + 1) * step := by
      rw [Nat.add_mul, Nat.one_mul, Nat.mul_assoc 2 (2 ^ 53)]
      omega
    have := Nat.lt_of_mul_lt_mul_right hbound
    omega
  · rw [or_iff_not_imp_left]
    intro hs
    have hle := le_of_droppedDigits h hs
    have hupper := hnear.upper
    generalize den * 2 ^ droppedDigits num den = step at *
    refine ⟨?_, hle⟩
    have hbound : (2 * 2 ^ 52) * step < (2 * roundDiv num step + 2) * step := by
      have hsplit : (2 * roundDiv num step + 2) * step =
          (2 * roundDiv num step + 1) * step + step := by ring
      rw [Nat.mul_assoc]
      omega
    have := Nat.lt_of_mul_lt_mul_right hbound
    omega

/-! ## What rounds to a number -/

theorem roundsTo_mul (units num den : Nat) {c : Nat} (h : 0 < c) :
    roundsTo units (c * num) (c * den) = roundsTo units num den := by
  unfold roundsTo
  dsimp only
  rw [Nat.mul_left_comm _ c, Nat.mul_left_comm _ c]
  simp only [Nat.mul_le_mul_left_iff h, Nat.mul_lt_mul_left h]

/-- A fraction that rounds to a number is at most half a gap away. -/
theorem near_of_roundsTo {units num den : Nat} (h : roundsTo units (4 * num) den) :
    2 * units * den ≤ 2 * num + gap units * den ∧ 2 * num ≤ 2 * units * den + gap units * den := by
  unfold roundsTo at h
  dsimp only at h
  generalize gap units = g at h ⊢
  -- The interval is never longer to the left than to the right.
  generalize hbelow : (if (units = Nat.pow 2 52 * g && 1 < g) = true then g else 2 * g) = below at h
  have hle : below ≤ 2 * g := by split at hbelow <;> omega
  have hlow : (4 * units - 2 * g) * den ≤ (4 * units - below) * den :=
    Nat.mul_le_mul_right den (by omega)
  have hsub : 4 * units * den ≤ (4 * units - 2 * g) * den + 2 * g * den := by
    rw [← Nat.add_mul]
    exact Nat.mul_le_mul_right den (by omega)
  have hhigh : (4 * units + 2 * g) * den = 2 * (2 * units * den) + 2 * (g * den) := by ring
  have hatoms : 4 * units * den = 2 * (2 * units * den) ∧ 2 * g * den = 2 * (g * den) :=
    ⟨by ring, by ring⟩
  split at h <;> simp only [Bool.and_eq_true, decide_eq_true_eq] at h <;> omega

/-- The fractions that round to a number with a significand of 53 binary digits, in quarters of a
gap. -/
theorem roundsTo_mul_pow_iff {r s num den : Nat} (hr : r < 2 ^ 53) (hs : s = 0 ∨ 2 ^ 52 ≤ r) :
    roundsTo (r * 2 ^ s) num den ↔
      if r % 2 = 0 then
        (4 * r - if r = 2 ^ 52 ∧ s ≠ 0 then 1 else 2) * (den * 2 ^ s) ≤ num ∧
          num ≤ (4 * r + 2) * (den * 2 ^ s)
      else
        (4 * r - if r = 2 ^ 52 ∧ s ≠ 0 then 1 else 2) * (den * 2 ^ s) < num ∧
          num < (4 * r + 2) * (den * 2 ^ s) := by
  have hpos : 0 < 2 ^ s := Nat.two_pow_pos s
  have hpower : (r * 2 ^ s = Nat.pow 2 52 * 2 ^ s && 1 < 2 ^ s) = true ↔ r = 2 ^ 52 ∧ s ≠ 0 := by
    rw [Bool.and_eq_true, decide_eq_true_eq, decide_eq_true_eq, Nat.mul_left_inj hpos.ne',
      Nat.one_lt_two_pow_iff]
    rfl
  have hlow : (4 * (r * 2 ^ s) - if (r * 2 ^ s = Nat.pow 2 52 * 2 ^ s && 1 < 2 ^ s) = true
        then 2 ^ s else 2 * 2 ^ s) * den =
      (4 * r - if r = 2 ^ 52 ∧ s ≠ 0 then 1 else 2) * (den * 2 ^ s) := by
    rw [if_congr hpower rfl rfl, Nat.sub_mul, Nat.sub_mul]
    split
    · congr 1 <;> ring
    · congr 1 <;> ring
  have hhigh : (4 * (r * 2 ^ s) + 2 * 2 ^ s) * den = (4 * r + 2) * (den * 2 ^ s) := by ring
  unfold roundsTo
  rw [gap_mul_pow hr hs]
  dsimp only
  rw [hlow, hhigh, Nat.mul_div_cancel r hpos]
  split <;> simp only [Bool.and_eq_true, decide_eq_true_eq]

/-- What a fraction of units is rounded to is a number to which the fraction rounds. -/
theorem roundsTo_roundUnits (num : Nat) {den : Nat} (h : 0 < den) :
    roundsTo (roundUnits num den) (4 * num) den := by
  obtain ⟨r, s, heq, ⟨hlower, hupper, heven⟩, hle, hlong⟩ := exists_roundUnits num h
  rw [heq]
  rcases Nat.lt_or_ge r (2 ^ 53) with hr | hr
  · rw [roundsTo_mul_pow_iff hr (hlong.imp_right And.left)]
    generalize den * 2 ^ s = step at *
    have hhigh : (4 * r + 2) * step = 2 * (2 * r * step) + 2 * step := by ring
    have hnext : (2 * r + 1) * step = 2 * r * step + step := by ring
    have hlow : ∀ b, (4 * r - b) * step = 2 * (2 * r * step) - b * step := by
      intro b
      rw [Nat.sub_mul]
      congr 1
      ring
    have hone : r ≠ 0 → 2 * step ≤ 2 * r * step := fun hr => Nat.mul_le_mul_right step (by omega)
    rw [hnext] at hupper heven
    rw [hhigh, hlow]
    by_cases hpower : r = 2 ^ 52 ∧ s ≠ 0
    · obtain ⟨hpower', hs⟩ := hpower
      have hnum : 2 ^ 52 * step ≤ num := (hlong.resolve_left hs).2
      rw [if_pos (by omega), if_pos ⟨hpower', hs⟩]
      rw [hpower'] at hupper ⊢
      omega
    · rw [if_neg hpower]
      split <;> omega
  · -- The significand has grown by one digit; the next power of two is the even end of its interval.
    have hr' : r = 2 ^ 53 := Nat.le_antisymm hle hr
    have hpower : 2 ^ 53 * 2 ^ s = 2 ^ 52 * 2 ^ (s + 1) := by ring
    have hstep : den * 2 ^ (s + 1) = 2 * (den * 2 ^ s) := by ring
    rw [hr', hpower, roundsTo_mul_pow_iff (by decide) (.inr (Nat.le_refl _)), hstep]
    rw [hr'] at hlower hupper
    rw [if_pos (by decide), if_pos ⟨rfl, by omega⟩]
    generalize den * 2 ^ s = step at *
    omega

end NoteQuery.Binary64
