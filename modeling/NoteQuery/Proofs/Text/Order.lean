import NoteQuery.Proofs.Text.Trim

/-!
# The order of texts

Texts are ordered by their first characters that differ. Of two runs of digits of the same length,
the one that writes the smaller number comes first.

* `compare_ofList`: the order of texts as the lexicographic order of their characters.
* `compareLex_append`: a part of fixed length counts before the rest.
* `compareLex_digits`: runs of digits.
-/

namespace NoteQuery.Text

theorem compareLex_eq_compareOfLessAndEq (cs ds : List Char) :
    List.compareLex compare cs ds = compareOfLessAndEq cs ds := by
  induction cs generalizing ds with
  | nil =>
    cases ds with
    | nil => rfl
    | cons d ds => simp [List.compareLex_nil_cons, compareOfLessAndEq]
  | cons c cs ih =>
    cases ds with
    | nil => simp [List.compareLex_cons_nil, compareOfLessAndEq]
    | cons d ds =>
      have hchar : compare c d = compareOfLessAndEq c d := rfl
      rw [List.compareLex_cons_cons, ih, hchar]
      simp only [compareOfLessAndEq, List.cons_lt_cons_iff, List.cons.injEq]
      by_cases hlt : c < d
      · simp [hlt]
      · by_cases heq : c = d
        · subst heq
          have hirrefl : ¬ c < c := Char.lt_irrefl c
          simp only [hirrefl, if_false, if_true, true_and, false_or, Ordering.eq_then]
        · simp [hlt, heq]

theorem compare_ofList (cs ds : List Char) :
    compare (String.ofList cs) (String.ofList ds) = List.compareLex compare cs ds := by
  rw [compareLex_eq_compareOfLessAndEq]
  show compareOfLessAndEq (String.ofList cs) (String.ofList ds) = compareOfLessAndEq cs ds
  simp only [compareOfLessAndEq, String.lt_iff, String.toList_ofList, String.ofList_inj]

theorem compareLex_append {α : Type} {cmp : α → α → Ordering} {xs ys : List α}
    (h : xs.length = ys.length) (as bs : List α) :
    List.compareLex cmp (xs ++ as) (ys ++ bs) =
      (List.compareLex cmp xs ys).then (List.compareLex cmp as bs) := by
  induction xs generalizing ys with
  | nil =>
    cases ys with
    | nil => rfl
    | cons y ys => cases h
  | cons x xs ih =>
    cases ys with
    | nil => cases h
    | cons y ys =>
      rw [List.cons_append, List.cons_append, List.compareLex_cons_cons, List.compareLex_cons_cons,
        ih (Nat.succ.inj h), Ordering.then_assoc]

/-! ## Digits -/

theorem natOfDigits_cons (c : Char) (cs : List Char) :
    natOfDigits (c :: cs) = Nat.pow 10 cs.length * (c.toNat - '0'.toNat) + natOfDigits cs := by
  rw [natOfDigits, Nat.ofDigitChars_cons, Nat.mul_zero, Nat.zero_add]
  exact Nat.ofDigitChars_eq_ofDigitChars_zero

theorem natOfDigits_lt {cs : List Char} (h : ∀ c ∈ cs, c.isDigit) :
    natOfDigits cs < Nat.pow 10 cs.length := by
  induction cs with
  | nil => decide
  | cons c cs ih =>
    have ih := ih fun d hd => h d (List.mem_cons_of_mem _ hd)
    have hdigit := toNat_of_isDigit (h c List.mem_cons_self)
    have hzero : '0'.toNat = 48 := rfl
    have hle : Nat.pow 10 cs.length * (c.toNat - '0'.toNat) ≤ Nat.pow 10 cs.length * 9 :=
      Nat.mul_le_mul_left _ (by omega)
    have hpow : Nat.pow 10 (c :: cs).length = Nat.pow 10 cs.length * 10 := rfl
    rw [natOfDigits_cons, hpow]
    omega

theorem compare_mul_add {a b r s n : Nat} (hr : r < n) (hs : s < n) :
    compare (n * a + r) (n * b + s) = (compare a b).then (compare r s) := by
  rcases Nat.lt_trichotomy a b with h | rfl | h
  · have : n * (a + 1) ≤ n * b := Nat.mul_le_mul_left n h
    rw [Nat.compare_eq_lt.mpr h, Nat.compare_eq_lt.mpr (by rw [Nat.mul_add] at this; omega)]
    rfl
  · rw [Nat.compare_eq_eq.mpr (rfl : a = a), Ordering.eq_then]
    rcases Nat.lt_trichotomy r s with h | rfl | h
    · rw [Nat.compare_eq_lt.mpr h, Nat.compare_eq_lt.mpr (by omega)]
    · rw [Nat.compare_eq_eq.mpr rfl, Nat.compare_eq_eq.mpr rfl]
    · rw [Nat.compare_eq_gt.mpr h, Nat.compare_eq_gt.mpr (by omega)]
  · have : n * (b + 1) ≤ n * a := Nat.mul_le_mul_left n h
    rw [Nat.compare_eq_gt.mpr h, Nat.compare_eq_gt.mpr (by rw [Nat.mul_add] at this; omega)]
    rfl

theorem compare_digits {c d : Char} (hc : c.isDigit) (hd : d.isDigit) :
    compare c d = compare (c.toNat - '0'.toNat) (d.toNat - '0'.toNat) := by
  have hc := toNat_of_isDigit hc
  have hd := toNat_of_isDigit hd
  have hzero : '0'.toNat = 48 := rfl
  have hchar : compare c d = compareOfLessAndEq c d := rfl
  have hnat : compare (c.toNat - '0'.toNat) (d.toNat - '0'.toNat) =
      compareOfLessAndEq (c.toNat - '0'.toNat) (d.toNat - '0'.toNat) := rfl
  have hlt : c < d ↔ c.toNat - '0'.toNat < d.toNat - '0'.toNat := by
    rw [Char.lt_def, UInt32.lt_iff_toNat_lt]
    simp only [Char.toNat_val]
    omega
  have heq : c = d ↔ c.toNat - '0'.toNat = d.toNat - '0'.toNat := by
    rw [← Char.toNat_inj]
    omega
  rw [hchar, hnat]
  simp only [compareOfLessAndEq, hlt, heq]

theorem compareLex_digits {cs ds : List Char} (hcs : ∀ c ∈ cs, c.isDigit)
    (hds : ∀ d ∈ ds, d.isDigit) (h : cs.length = ds.length) :
    List.compareLex compare cs ds = compare (natOfDigits cs) (natOfDigits ds) := by
  induction cs generalizing ds with
  | nil =>
    cases ds with
    | nil => rfl
    | cons d ds => cases h
  | cons c cs ih =>
    cases ds with
    | nil => cases h
    | cons d ds =>
      have h := Nat.succ.inj h
      have hcs' : ∀ c ∈ cs, c.isDigit := fun e he => hcs e (List.mem_cons_of_mem _ he)
      have hds' : ∀ d ∈ ds, d.isDigit := fun e he => hds e (List.mem_cons_of_mem _ he)
      rw [List.compareLex_cons_cons, ih hcs' hds' h,
        compare_digits (hcs c List.mem_cons_self) (hds d List.mem_cons_self), natOfDigits_cons,
        natOfDigits_cons, ← h, compare_mul_add (natOfDigits_lt hcs') (h ▸ natOfDigits_lt hds')]

end NoteQuery.Text
