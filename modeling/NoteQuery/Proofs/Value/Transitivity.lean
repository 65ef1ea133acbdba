import NoteQuery.Proofs.Value.Comparability

/-!
# Chains of values

The order of values is not transitive: 10 comes before the text `9` by their texts, the text `9` is
as good as the number 9, but 9 comes before 10. It is transitive along every chain of three values
that does not mix measures so: two numbers with a value that is compared with them by its text, or
two lists with a value that is no list. The ends of the chain have to be comparable, too: an integer
with too many digits is at most `inf`, which is at most `true`, but it has no text to compare with
that of `true`.

* `not_isAtMost_trans`: the chain above.
* `exists_comparison_of_not_mixed`: three values of which no two are lists.
* `orderItems_trans`, `order_trans_of_not_mixed`: lists, and all values of notes.
* `isAtMost_trans_of_not_mixed`: all chains that are not mixed.
-/

namespace NoteQuery.Value

open Std

theorem not_isAtMost_trans :
    ¬ ∀ a b c : Value, a.IsFlat → b.IsFlat → c.IsFlat → a.isAtMost b → b.isAtMost c →
      a.isAtMost c := by
  intro h
  have hchain := h (.int 10) (.text "9") (.int 9) (.scalar (.number (.int 10)))
    (.scalar (.textual (.text "9"))) (.scalar (.number (.int 9))) (by decide) (by decide)
  have hgt : isAtMost (.int 10) (.int 9) = false := by decide +kernel
  rw [hgt] at hchain
  cases hchain

/-! ## Mixtures -/

/-- Two of the values have the first property, and the other one has the second. -/
def TwoAndOne (P Q : Value → Prop) (a b c : Value) : Prop :=
  (P a ∧ P b ∧ Q c) ∨ (P a ∧ Q b ∧ P c) ∨ (Q a ∧ P b ∧ P c)

/-- What may stand among the texts of numbers: texts, dates and lists that are not empty. -/
inductive IsWordy : Value → Prop
  | text (s : String) : IsWordy (.text s)
  | date (d : DateLiteral) : IsWordy (.date d)
  | list (v : Value) (vs : List Value) : IsWordy (.list (v :: vs))

/-- Lists that are mixed at some place, with items that are equal before it. -/
inductive MixedItems : List Value → List Value → List Value → Prop
  | here {x y z : Value} {xs ys zs : List Value} :
      TwoAndOne IsNumber IsWordy x y z → MixedItems (x :: xs) (y :: ys) (z :: zs)
  | behind {x y z : Value} {xs ys zs : List Value} :
      x.order y = .eq → y.order z = .eq → MixedItems xs ys zs →
        MixedItems (x :: xs) (y :: ys) (z :: zs)

/-- Three values that are compared by different measures. -/
inductive Mixed : Value → Value → Value → Prop
  | numbers {a b c : Value} : TwoAndOne IsNumber IsWordy a b c → Mixed a b c
  | lists {a b c : Value} :
      TwoAndOne IsList (fun v => v ≠ .null ∧ ¬ v.IsList) a b c → Mixed a b c
  | items {xs ys zs : List Value} : MixedItems xs ys zs → Mixed (.list xs) (.list ys) (.list zs)

theorem IsFlat.wordy_or {v : Value} (h : v.IsFlat) :
    v.IsWordy ∨ v = .null ∨ v.IsNumeric ∨ v = .list [] := by
  rcases h with (_ | h | h) | @⟨items, -⟩
  · exact Or.inr (Or.inl rfl)
  · cases h with
    | text s => exact Or.inl (.text s)
    | bool b => exact Or.inr (Or.inr (Or.inl (.bool b)))
    | date h => exact Or.inl (.date _)
  · exact Or.inr (Or.inr (Or.inl (.number h)))
  · cases items with
    | nil => exact Or.inr (Or.inr (Or.inr rfl))
    | cons v vs => exact Or.inl (.list v vs)

theorem IsWordy.not_isNumber {v : Value} (h : v.IsWordy) : ¬ v.IsNumber := by
  intro hnumber
  cases hnumber <;> cases h

/-! ## Three values of which no two are lists -/

variable {a b c : Value}

theorem exists_comparison_of_not_mixed (ha : a.IsFlat) (hb : b.IsFlat) (hc : c.IsFlat)
    (hmixed : ¬ TwoAndOne IsNumber IsWordy a b c) (hab : ¬ (a.IsList ∧ b.IsList))
    (hbc : ¬ (b.IsList ∧ c.IsList)) (hac : ¬ (a.IsList ∧ c.IsList)) :
    ∃ cmp, TransCmp cmp ∧ a.order b = cmp a b ∧ b.order c = cmp b c ∧ a.order c = cmp a c := by
  by_cases hwordy : a.IsWordy ∨ b.IsWordy ∨ c.IsWordy
  · -- two numbers among them would make the third one the wordy one
    have hnab : ¬ (a.IsNumber ∧ b.IsNumber) := by
      rintro ⟨hna, hnb⟩
      rcases hwordy with h | h | h
      · exact h.not_isNumber hna
      · exact h.not_isNumber hnb
      · exact hmixed (Or.inl ⟨hna, hnb, h⟩)
    have hnbc : ¬ (b.IsNumber ∧ c.IsNumber) := by
      rintro ⟨hnb, hnc⟩
      rcases hwordy with h | h | h
      · exact hmixed (Or.inr (Or.inr ⟨h, hnb, hnc⟩))
      · exact h.not_isNumber hnb
      · exact h.not_isNumber hnc
    have hnac : ¬ (a.IsNumber ∧ c.IsNumber) := by
      rintro ⟨hna, hnc⟩
      rcases hwordy with h | h | h
      · exact h.not_isNumber hna
      · exact hmixed (Or.inr (Or.inl ⟨hna, h, hnc⟩))
      · exact h.not_isNumber hnc
    exact ⟨nullsLast byText, inferInstance,
      order_eq_nullsLast fun h h' => order_eq_byText ha hb h h' hnab hab,
      order_eq_nullsLast fun h h' => order_eq_byText hb hc h h' hnbc hbc,
      order_eq_nullsLast fun h h' => order_eq_byText ha hc h h' hnac hac⟩
  · simp only [not_or] at hwordy
    have ha' := ha.wordy_or.resolve_left hwordy.1
    have hb' := hb.wordy_or.resolve_left hwordy.2.1
    have hc' := hc.wordy_or.resolve_left hwordy.2.2
    exact ⟨nullsLast byNumber, inferInstance,
      order_eq_nullsLast fun h h' =>
        order_eq_byNumber (ha'.resolve_left h) (hb'.resolve_left h'),
      order_eq_nullsLast fun h h' =>
        order_eq_byNumber (hb'.resolve_left h) (hc'.resolve_left h'),
      order_eq_nullsLast fun h h' =>
        order_eq_byNumber (ha'.resolve_left h) (hc'.resolve_left h')⟩

/-! ## Lists -/

theorem IsScalar.not_isList {v : Value} (h : v.IsScalar) : ¬ v.IsList := by
  rintro ⟨vs, rfl⟩
  rcases h with _ | ⟨⟨⟩⟩ | ⟨⟨⟩⟩

theorem orderItems_trans {xs ys zs : List Value} (hxs : ∀ x ∈ xs, x.IsScalar)
    (hys : ∀ y ∈ ys, y.IsScalar) (hzs : ∀ z ∈ zs, z.IsScalar) (hmixed : ¬ MixedItems xs ys zs)
    (hxy : (orderItems xs ys).isLE) (hyz : (orderItems ys zs).isLE) :
    (orderItems xs zs).isLE := by
  induction xs generalizing ys zs with
  | nil => cases zs <;> rfl
  | cons x xs ih =>
    cases ys with
    | nil => cases hxy
    | cons y ys =>
      cases zs with
      | nil => cases hyz
      | cons z zs =>
        have hx := hxs x List.mem_cons_self
        have hy := hys y List.mem_cons_self
        have hz := hzs z List.mem_cons_self
        obtain ⟨cmp, htrans, hcxy, hcyz, hcxz⟩ := exists_comparison_of_not_mixed (.scalar hx)
          (.scalar hy) (.scalar hz) (fun h => hmixed (.here h)) (fun h => hx.not_isList h.1)
          (fun h => hy.not_isList h.1) (fun h => hx.not_isList h.1)
        rw [orderItems, Ordering.isLE_then_iff_or] at hxy hyz ⊢
        rw [hcxz]
        rcases hxy with hxy | ⟨hxy, htail⟩
        · left
          apply TransCmp.lt_of_lt_of_isLE (hcxy ▸ hxy)
          rcases hyz with hyz | ⟨hyz, -⟩
          · rw [← hcyz, hyz]
            rfl
          · rw [← hcyz, hyz]
            rfl
        · rcases hyz with hyz | ⟨hyz, htail'⟩
          · exact Or.inl (TransCmp.lt_of_eq_of_lt (hcxy ▸ hxy) (hcyz ▸ hyz))
          · refine Or.inr ⟨TransCmp.eq_trans (hcxy ▸ hxy) (hcyz ▸ hyz), ?_⟩
            exact ih (fun v hv => hxs v (List.mem_cons_of_mem _ hv))
              (fun v hv => hys v (List.mem_cons_of_mem _ hv))
              (fun v hv => hzs v (List.mem_cons_of_mem _ hv))
              (fun h => hmixed (.behind hxy hyz h)) htail htail'

/-! ## All values of notes -/

theorem IsFlat.scalar_of_mem {vs : List Value} (h : IsFlat (.list vs)) :
    ∀ v ∈ vs, v.IsScalar := by
  cases h with
  | scalar h => exact absurd ⟨vs, rfl⟩ h.not_isList
  | list h => exact h

theorem order_trans_of_not_mixed (ha : a.IsFlat) (hb : b.IsFlat) (hc : c.IsFlat)
    (hmixed : ¬ Mixed a b c) (hab : (a.order b).isLE) (hbc : (b.order c).isLE) :
    (a.order c).isLE := by
  by_cases hlab : a.IsList ∧ b.IsList
  · obtain ⟨⟨xs, rfl⟩, ys, rfl⟩ := hlab
    by_cases hlc : c.IsList
    · obtain ⟨zs, rfl⟩ := hlc
      exact orderItems_trans ha.scalar_of_mem hb.scalar_of_mem hc.scalar_of_mem
        (fun h => hmixed (.items h)) hab hbc
    · by_cases hnull : c = .null
      · subst hnull
        rfl
      · exact absurd (.lists (Or.inl ⟨⟨xs, rfl⟩, ⟨ys, rfl⟩, hnull, hlc⟩)) hmixed
  · by_cases hlbc : b.IsList ∧ c.IsList
    · have hla : ¬ a.IsList := fun h => hlab ⟨h, hlbc.1⟩
      by_cases hnull : a = .null
      · obtain ⟨⟨ys, rfl⟩, -⟩ := hlbc
        subst hnull
        cases hab
      · exact absurd (.lists (Or.inr (Or.inr ⟨⟨hnull, hla⟩, hlbc⟩))) hmixed
    · by_cases hlac : a.IsList ∧ c.IsList
      · have hlb : ¬ b.IsList := fun h => hlab ⟨hlac.1, h⟩
        by_cases hnull : b = .null
        · obtain ⟨-, zs, rfl⟩ := hlac
          subst hnull
          cases hbc
        · exact absurd (.lists (Or.inr (Or.inl ⟨hlac.1, ⟨hnull, hlb⟩, hlac.2⟩))) hmixed
      · obtain ⟨cmp, htrans, hcab, hcbc, hcac⟩ := exists_comparison_of_not_mixed ha hb hc
          (fun h => hmixed (.numbers h)) hlab hlbc hlac
        rw [hcac]
        exact TransCmp.isLE_trans (hcab ▸ hab) (hcbc ▸ hbc)

/-- The order is transitive along all chains of values of notes that are not mixed, if their ends can
be compared. -/
theorem isAtMost_trans_of_not_mixed (ha : a.IsFlat) (hb : b.IsFlat) (hc : c.IsFlat)
    (hmixed : ¬ Mixed a b c) (hac : a.isComparable c) (hab : a.isAtMost b) (hbc : b.isAtMost c) :
    a.isAtMost c := by
  have hab := (isAtMost_iff.mp hab).2
  have hbc := (isAtMost_iff.mp hbc).2
  exact isAtMost_iff.mpr ⟨hac, order_trans_of_not_mixed ha hb hc hmixed hab hbc⟩

theorem isAtMost_trans_of_three_kinds :
    isAtMost (.int 9) (.text "9") ∧ isAtMost (.text "9") (.bool true) ∧
      isComparable (.int 9) (.bool true) ∧ isAtMost (.int 9) (.bool true) := by
  have hmixed : ¬ Mixed (.int 9) (.text "9") (.bool true) := by
    rintro (h | h)
    · rcases h with ⟨-, h, -⟩ | ⟨-, -, h⟩ | ⟨h, -⟩ <;> cases h
    · rcases h with ⟨h, -⟩ | ⟨h, -⟩ | ⟨-, h, -⟩ <;> (obtain ⟨vs, h⟩ := h; cases h)
  have hac : isComparable (.int 9) (.bool true) := by decide
  have hab : isAtMost (.int 9) (.text "9") := by decide
  have hbc : isAtMost (.text "9") (.bool true) := by decide
  exact ⟨hab, hbc, hac, isAtMost_trans_of_not_mixed (.scalar (.number (.int 9)))
    (.scalar (.textual (.text "9"))) (.scalar (.textual (.bool true))) hmixed hac hab hbc⟩

/-! Of the other two mixtures, too, there are chains that fail. -/

example : isAtMost (.list [.int 10]) (.text "9") ∧ isAtMost (.text "9") (.list [.int 9]) ∧
    isAtMost (.list [.int 10]) (.list [.int 9]) = false := by decide +kernel

example : isAtMost (.list [.int 10]) (.list [.text "9"]) ∧
    isAtMost (.list [.text "9"]) (.list [.int 9]) ∧
    isAtMost (.list [.int 10]) (.list [.int 9]) = false := by decide +kernel

end NoteQuery.Value
