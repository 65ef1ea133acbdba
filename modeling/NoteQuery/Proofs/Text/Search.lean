import NoteQuery.Proofs.Text.Ends
import NoteQuery.Text.LowerCase

/-!
# Searching for small letters

A search brings the text and the piece to lower case and looks for the one in the other. The small
letter of every character is its own, but for the capital sigma, whose small letter depends on what
stands around it. So a piece of a text is found there if its capital sigmas have the same small
letters in the piece alone as they have in the text.

* `hasPiece_iff`: pieces of texts.
* `lower_lower`: small letters have no small letters but themselves.
* `lowerBetween`, `lower_append_append`: the lower case of a piece where it stands.
* `KeepsSigmas`, `KeepsSigmas.lower_occurs`: pieces that are found. `keepsSigmas_of_notMem`,
  `keepsSigmas_of_whole`: pieces without a capital sigma, and pieces that are not cut from a word.
* `occurs_everywhere_iff`: pieces that are found wherever they stand. If a sigma of a piece has
  another letter somewhere, it has another one next to a letter, and there the piece is not found.
-/

namespace NoteQuery.Text

/-! ## Pieces -/

theorem hasPiece_iff {piece cs : List Char} : hasPiece piece cs ↔ piece <:+: cs := by
  induction cs with
  | nil => simp [hasPiece]
  | cons c cs ih =>
    rw [hasPiece, Bool.or_eq_true, List.isPrefixOf_iff_prefix, ih, List.infix_cons_iff]

/-! ## Small letters -/

/-- No small letter of the first run is a capital of the second. -/
def CaseRun.avoids (r s : CaseRun) : Bool :=
  (r.last + r.shift).toNat.blt s.first || s.last.blt (r.first + r.shift).toNat ||
    ((r.step == 2 || r.first == r.last) && s.step == 2 && 0 ≤ r.first + r.shift &&
      (r.first + r.shift).toNat % 2 != s.first % 2)

theorem CaseRun.holds_eq_false {r s : CaseRun} (h : r.avoids s) {n : Nat} (hn : r.holds n) :
    s.holds (n + r.shift).toNat = false := by
  simp only [avoids, Nat.blt_eq, Bool.or_eq_true, Bool.and_eq_true, decide_eq_true_eq, beq_iff_eq,
    bne_iff_ne] at h
  simp only [holds, Bool.and_eq_true, decide_eq_true_eq, beq_iff_eq] at hn
  obtain ⟨⟨hfirst, hlast⟩, hstep⟩ := hn
  rw [Bool.eq_false_iff]
  intro hs
  simp only [holds, Bool.and_eq_true, decide_eq_true_eq, beq_iff_eq] at hs
  obtain ⟨⟨hfirst', hlast'⟩, hstep'⟩ := hs
  rcases h with (h | h) | ⟨⟨⟨hr | hr, hs⟩, hpos⟩, hparity⟩
  · omega
  · omega
  · rw [hr] at hstep
    rw [hs] at hstep'
    omega
  · rw [hs] at hstep'
    omega

/-- All capitals but the sigma, whose place counts: those with one small letter, and `İ`. -/
def capitals : List CaseRun := ⟨'İ'.toNat, 'İ'.toNat, 1, 0⟩ :: caseRuns

theorem avoids_of_mem {r s : CaseRun} (hr : r ∈ caseRuns) (hs : s ∈ capitals) : r.avoids s := by
  have hall : caseRuns.all fun r => capitals.all fun s => r.avoids s := by decide +kernel
  exact List.all_eq_true.mp (List.all_eq_true.mp hall r hr) s hs

/-- What lower-casing leaves alone, wherever it stands. -/
structure IsSmall (c : Char) : Prop where
  lower_eq : lowerChar c = [c]
  ne_sigma : c ≠ 'Σ'

theorem toLower_of_not_holds {c : Char}
    (h : (⟨0x41, 0x5a, 1, 32⟩ : CaseRun).holds c.toNat = false) : c.toLower = c := by
  simp only [CaseRun.holds, Nat.mod_one, beq_self_eq_true, Bool.and_true, Bool.and_eq_false_iff,
    decide_eq_false_iff_not] at h
  refine dif_neg ?_
  rintro ⟨hA, hZ⟩
  rw [ge_iff_le, UInt32.le_iff_toNat_le, Char.toNat_val, Char.toNat_val] at hA
  rw [UInt32.le_iff_toNat_le, Char.toNat_val, Char.toNat_val] at hZ
  have hcodes : 'A'.toNat = 0x41 ∧ 'Z'.toNat = 0x5a := ⟨rfl, rfl⟩
  omega

theorem isSmall_of_not_holds {c : Char} (h : ∀ r ∈ capitals, r.holds c.toNat = false) :
    IsSmall c := by
  have hruns : ∀ r ∈ caseRuns, r.holds c.toNat = false :=
    fun r hr => h r (List.mem_cons_of_mem _ hr)
  refine ⟨?_, ?_⟩
  · unfold lowerChar
    split
    · rw [toLower_of_not_holds (hruns _ (List.Mem.head _))]
    · split
      · rename_i hdotted
        subst hdotted
        cases h _ List.mem_cons_self
      · have hfind : caseRuns.find? (·.holds c.toNat) = none := by
          rw [List.find?_eq_none]
          exact fun r hr => by rw [hruns r hr]; exact Bool.false_ne_true
        rw [hfind]
  · rintro rfl
    have hsigma : caseRuns.any fun r => r.holds 'Σ'.toNat := by decide +kernel
    obtain ⟨r, hr, hholds⟩ := List.any_eq_true.mp hsigma
    rw [hruns r hr] at hholds
    cases hholds

/-- Whether no run holds the character. -/
def isNoCapital (c : Char) : Bool := capitals.all fun r => !r.holds c.toNat

theorem isSmall_of_isNoCapital {c : Char} (h : isNoCapital c) : IsSmall c := by
  refine isSmall_of_not_holds fun r hr => ?_
  simpa using List.all_eq_true.mp h r hr

theorem isSmall_ofNat {n : Nat} (h : ∀ r ∈ capitals, r.holds n = false) :
    IsSmall (Char.ofNat n) := by
  by_cases hvalid : n.isValidChar
  · have hcode : (Char.ofNat n).toNat = n := by
      rw [Char.ofNat, dif_pos hvalid]
      rfl
    exact isSmall_of_not_holds (by rwa [hcode])
  · -- A number that is no code point stands for the null character.
    have hzero : Char.ofNat n = Char.ofNat 0 := by
      rw [Char.ofNat, dif_neg hvalid]
      rfl
    rw [hzero]
    exact isSmall_of_isNoCapital (by decide +kernel)

theorem isSmall_toLower {c : Char} (h : c.toNat < 0x80) : IsSmall c.toLower := by
  have hall : ∀ n < 0x80, (Char.ofNat n).toLower.toNat < 0x80 ∧
      (Char.ofNat n).toLower.toLower = (Char.ofNat n).toLower ∧
      (Char.ofNat n).toLower ≠ 'Σ' := by
    decide +kernel
  obtain ⟨hascii, hlower, hsigma⟩ := hall c.toNat h
  rw [Char.ofNat_toNat] at hascii hlower hsigma
  exact ⟨by rw [lowerChar, if_pos hascii, hlower], hsigma⟩

/-- Every small letter is its own small letter. -/
theorem isSmall_of_mem_lowerChar {c d : Char} (h : d ∈ lowerChar c) : IsSmall d := by
  unfold lowerChar at h
  split at h
  · rename_i hascii
    rw [List.mem_singleton.mp h]
    exact isSmall_toLower hascii
  · split at h
    · simp only [List.mem_cons, List.not_mem_nil, or_false] at h
      rcases h with rfl | rfl
      · exact isSmall_toLower (c := 'i') (by decide)
      · exact isSmall_of_isNoCapital (by decide +kernel)
    · rename_i hdotted
      split at h
      · rename_i r hfind
        have hholds : r.holds c.toNat :=
          List.find?_some (p := fun s : CaseRun => s.holds c.toNat) hfind
        rw [List.mem_singleton.mp h]
        exact isSmall_ofNat fun s hs =>
          CaseRun.holds_eq_false (avoids_of_mem (List.mem_of_find?_eq_some hfind) hs) hholds
      · rename_i hfind
        rw [List.mem_singleton.mp h]
        refine isSmall_of_not_holds (List.forall_mem_cons.mpr ⟨?_, fun r hr => ?_⟩)
        · rw [Bool.eq_false_iff]
          intro hholds
          simp only [CaseRun.holds, Bool.and_eq_true, decide_eq_true_eq] at hholds
          exact hdotted (Char.toNat_inj.mp (by omega))
        · simpa using List.find?_eq_none.mp hfind r hr

/-! ## Lower case -/

theorem lowerAfter_eq_self {cs : List Char} (h : ∀ c ∈ cs, IsSmall c) (before : List Char) :
    lowerAfter before cs = cs := by
  induction cs generalizing before with
  | nil => rfl
  | cons c cs ih =>
    have hc := h c List.mem_cons_self
    rw [lowerAfter, if_neg hc.ne_sigma, hc.lower_eq,
      ih fun d hd => h d (List.mem_cons_of_mem _ hd)]
    rfl

theorem isSmall_sigma (before after : List Char) : IsSmall (sigma before after) := by
  unfold sigma
  split
  · exact isSmall_of_isNoCapital (by decide +kernel)
  · exact isSmall_of_isNoCapital (by decide +kernel)

theorem isSmall_of_mem_lowerAfter {before cs : List Char} {d : Char}
    (h : d ∈ lowerAfter before cs) : IsSmall d := by
  induction cs generalizing before with
  | nil => cases h
  | cons c cs ih =>
    rw [lowerAfter] at h
    split at h
    · rcases List.mem_cons.mp h with rfl | h
      · exact isSmall_sigma _ _
      · exact ih h
    · rcases List.mem_append.mp h with h | h
      · exact isSmall_of_mem_lowerChar h
      · exact ih h

/-- A text in lower case is its own lower case. -/
theorem lower_lower (cs : List Char) : lower (lower cs) = lower cs :=
  lowerAfter_eq_self (fun _ h => isSmall_of_mem_lowerAfter h) []

/-! ## Lower case where a piece stands -/

/-- The lower case of a text that stands between the reversed text `before` and the text `after`. -/
def lowerBetween (before after : List Char) : List Char → List Char
  | [] => []
  | c :: cs =>
    if c = 'Σ' then sigma before (cs ++ after) :: lowerBetween (c :: before) after cs
    else lowerChar c ++ lowerBetween (c :: before) after cs

theorem lowerAfter_append (before cs after : List Char) :
    lowerAfter before (cs ++ after) =
      lowerBetween before after cs ++ lowerAfter (cs.reverse ++ before) after := by
  induction cs generalizing before with
  | nil => rfl
  | cons c cs ih =>
    rw [List.cons_append, lowerAfter, lowerBetween, ih, List.reverse_cons, List.append_assoc]
    split
    · rfl
    · rw [List.append_assoc]
      rfl

theorem lowerAfter_eq_lowerBetween (before cs : List Char) :
    lowerAfter before cs = lowerBetween before [] cs := by
  have happend := lowerAfter_append before cs []
  rwa [List.append_nil, lowerAfter, List.append_nil] at happend

/-- The lower case of a text holds the lower case of each piece where it stands. -/
theorem lower_append_append (before piece after : List Char) :
    ∃ front back, lower (before ++ piece ++ after) =
      front ++ lowerBetween before.reverse after piece ++ back := by
  refine ⟨lowerBetween [] (piece ++ after) before,
    lowerAfter (piece.reverse ++ before.reverse) after, ?_⟩
  rw [lower, List.append_assoc, lowerAfter_append, lowerAfter_append, List.append_nil,
    List.append_assoc]

/-! ## Sigmas that keep their letters -/

/-- Every capital sigma of the piece has the same small letter between the two texts as it has in
the piece alone. -/
def KeepsSigmas (before piece after : List Char) : Prop :=
  ∀ front back, piece = front ++ 'Σ' :: back →
    sigma (front.reverse ++ before.reverse) (back ++ after) = sigma front.reverse back

theorem lowerBetween_eq_lowerAfter {before front cs after : List Char}
    (h : KeepsSigmas before (front ++ cs) after) :
    lowerBetween (front.reverse ++ before.reverse) after cs = lowerAfter front.reverse cs := by
  -- The induction is on what follows; what was read of the piece so far stays in front of it.
  induction cs generalizing front with
  | nil => rfl
  | cons c cs ih =>
    have hrest : lowerBetween ((front ++ [c]).reverse ++ before.reverse) after cs =
        lowerAfter (front ++ [c]).reverse cs := ih (by simpa using h)
    rw [List.reverse_append, List.reverse_singleton, List.singleton_append, List.cons_append]
      at hrest
    rw [lowerBetween, lowerAfter, hrest]
    split
    · rename_i hc
      subst hc
      rw [h front cs rfl]
    · rfl

theorem KeepsSigmas.lowerBetween_eq {before piece after : List Char}
    (h : KeepsSigmas before piece after) :
    lowerBetween before.reverse after piece = lower piece := by
  have hwhole : KeepsSigmas before ([] ++ piece) after := h
  exact lowerBetween_eq_lowerAfter hwhole

/-- A piece whose capital sigmas keep their letters is found. -/
theorem KeepsSigmas.lower_occurs {before piece after : List Char}
    (h : KeepsSigmas before piece after) : lower piece <:+: lower (before ++ piece ++ after) := by
  obtain ⟨front, back, heq⟩ := lower_append_append before piece after
  rw [heq, h.lowerBetween_eq]
  exact List.infix_append front (lower piece) back

theorem keepsSigmas_of_notMem {piece : List Char} (h : 'Σ' ∉ piece) (before after : List Char) :
    KeepsSigmas before piece after := by
  intro front back hpiece
  exact absurd (by rw [hpiece]; simp) h

theorem reachesCased_append {ys : List Char} (h : reachesCased ys = false) (xs : List Char) :
    reachesCased (xs ++ ys) = reachesCased xs := by
  rw [reachesCased, List.dropWhile_append]
  cases hxs : xs.dropWhile isCaseIgnorable with
  | nil =>
    rw [reachesCased, hxs]
    exact h
  | cons c cs =>
    rw [reachesCased, hxs]
    rfl

/-- A piece that begins and ends where words do. -/
theorem keepsSigmas_of_whole {before after : List Char} (hb : reachesCased before.reverse = false)
    (ha : reachesCased after = false) (piece : List Char) : KeepsSigmas before piece after := by
  intro front back _
  rw [sigma, sigma, reachesCased_append hb, reachesCased_append ha]

/-! ## Pieces that are found wherever they stand -/

theorem reachesCased_append_of_true {xs : List Char} (h : reachesCased xs) (ys : List Char) :
    reachesCased (xs ++ ys) := by
  rw [reachesCased] at h ⊢
  rw [List.dropWhile_append]
  cases hxs : xs.dropWhile isCaseIgnorable with
  | nil =>
    rw [hxs] at h
    cases h
  | cons c cs =>
    rw [hxs] at h
    exact h

theorem reachesCased_of_append {xs ys : List Char} (h : reachesCased (xs ++ ys) = false) :
    reachesCased xs = false := by
  rw [Bool.eq_false_iff] at h ⊢
  exact fun hxs => h (reachesCased_append_of_true hxs ys)

/-- Where some text behind lets a letter be reached, a single letter does. -/
theorem reachesCased_letter {xs ys : List Char} (h : reachesCased xs = false)
    (hys : reachesCased (xs ++ ys)) : reachesCased (xs ++ ['a']) := by
  rw [reachesCased] at h hys ⊢
  rw [List.dropWhile_append] at hys ⊢
  cases hxs : xs.dropWhile isCaseIgnorable with
  | nil => decide +kernel
  | cons c cs =>
    rw [hxs] at h hys
    exact absurd (h.symm.trans hys) Bool.false_ne_true

theorem lowerBetween_append (before after xs ys : List Char) :
    lowerBetween before after (xs ++ ys) =
      lowerBetween before (ys ++ after) xs ++ lowerBetween (xs.reverse ++ before) after ys := by
  induction xs generalizing before with
  | nil => rfl
  | cons c xs ih =>
    rw [List.cons_append, lowerBetween, lowerBetween, ih, List.append_assoc, List.reverse_cons,
      List.append_assoc]
    split
    · rfl
    · rw [List.append_assoc]
      rfl

/-- Where fewer sigmas have the small letter, the lower case holds it less often. -/
theorem count_lowerBetween_le {letter : Char} {before after before' after' cs : List Char}
    (h : ∀ front back, cs = front ++ 'Σ' :: back →
      sigma (front.reverse ++ before) (back ++ after) = letter →
      sigma (front.reverse ++ before') (back ++ after') = letter) :
    (lowerBetween before after cs).count letter ≤ (lowerBetween before' after' cs).count letter := by
  induction cs generalizing before before' with
  | nil => exact Nat.le_refl _
  | cons c cs ih =>
    have hrest : (lowerBetween (c :: before) after cs).count letter ≤
        (lowerBetween (c :: before') after' cs).count letter :=
      ih fun front back hcs => by simpa using h (c :: front) back (by rw [hcs]; rfl)
    rw [lowerBetween, lowerBetween]
    split
    · rename_i hc
      rw [List.count_cons, List.count_cons]
      have hfirst := h [] cs (by rw [hc]; rfl)
      simp only [List.reverse_nil, List.nil_append] at hfirst
      simp only [beq_iff_eq]
      split
      · rename_i hletter
        rw [if_pos (hfirst hletter)]
        exact Nat.add_le_add_right hrest 1
      · exact Nat.le_trans hrest (Nat.le_add_right _ _)
    · rw [List.count_append, List.count_append]
      exact Nat.add_le_add_left hrest _

theorem count_lowerBetween_lt {letter : Char} {before after before' after' front back : List Char}
    (h : ∀ f b, front ++ 'Σ' :: back = f ++ 'Σ' :: b →
      sigma (f.reverse ++ before) (b ++ after) = letter →
      sigma (f.reverse ++ before') (b ++ after') = letter)
    (hne : sigma (front.reverse ++ before) (back ++ after) ≠ letter)
    (heq : sigma (front.reverse ++ before') (back ++ after') = letter) :
    (lowerBetween before after (front ++ 'Σ' :: back)).count letter <
      (lowerBetween before' after' (front ++ 'Σ' :: back)).count letter := by
  have hfront : (lowerBetween before ('Σ' :: back ++ after) front).count letter ≤
      (lowerBetween before' ('Σ' :: back ++ after') front).count letter :=
    count_lowerBetween_le fun f b hf => by
      simpa using h f (b ++ 'Σ' :: back) (by rw [hf, List.append_assoc]; rfl)
  have hback : (lowerBetween ('Σ' :: (front.reverse ++ before)) after back).count letter ≤
      (lowerBetween ('Σ' :: (front.reverse ++ before')) after' back).count letter :=
    count_lowerBetween_le fun f b hb => by
      simpa using h (front ++ 'Σ' :: f) b (by rw [hb, List.append_assoc]; rfl)
  rw [lowerBetween_append, lowerBetween_append, lowerBetween, lowerBetween, if_pos rfl, if_pos rfl,
    List.count_append, List.count_append, List.count_cons_of_ne hne, heq, List.count_cons_self]
  omega

theorem sigma_eq_final_iff {before after : List Char} :
    sigma before after = 'ς' ↔ reachesCased before ∧ reachesCased after = false := by
  rw [sigma]
  cases reachesCased before <;> cases reachesCased after <;> decide

theorem sigma_eq_medial_iff {before after : List Char} :
    sigma before after = 'σ' ↔ sigma before after ≠ 'ς' := by
  rw [sigma]
  cases reachesCased before <;> cases reachesCased after <;> decide

theorem isSmall_letter : IsSmall 'a' := isSmall_of_isNoCapital (by decide +kernel)

theorem lower_append_letter (piece : List Char) :
    lower (piece ++ ['a']) = lowerBetween [] ['a'] piece ++ ['a'] := by
  rw [lower, lowerAfter_append, lowerAfter_eq_self (List.forall_mem_singleton.mpr isSmall_letter)]

theorem lower_letter_cons (piece : List Char) :
    lower ('a' :: piece) = 'a' :: lowerBetween ['a'] [] piece := by
  rw [lower, lowerAfter, if_neg isSmall_letter.ne_sigma, isSmall_letter.lower_eq,
    lowerAfter_eq_lowerBetween]
  rfl

/-- If a final sigma of the piece is not final everywhere, the piece is not found before a letter:
there are more final sigmas in the piece than in the text. -/
theorem not_occurs_before_letter {front back after : List Char}
    (hfinal : sigma front.reverse back = 'ς') (hafter : reachesCased (back ++ after)) :
    ¬ lower (front ++ 'Σ' :: back) <:+: lower (front ++ 'Σ' :: back ++ ['a']) := by
  intro hoccurs
  have hback := (sigma_eq_final_iff.mp hfinal).2
  have hless : (lowerBetween [] ['a'] (front ++ 'Σ' :: back)).count 'ς' <
      (lowerBetween [] [] (front ++ 'Σ' :: back)).count 'ς' := by
    refine count_lowerBetween_lt (fun f b _ h => ?_) (fun h => ?_)
      (by rwa [List.append_nil, List.append_nil])
    · rw [List.append_nil, sigma_eq_final_iff] at h ⊢
      rw [List.append_nil]
      exact ⟨h.1, reachesCased_of_append h.2⟩
    · exact Bool.eq_false_iff.mp (sigma_eq_final_iff.mp h).2 (reachesCased_letter hback hafter)
  have hcount := hoccurs.sublist.count_le 'ς'
  rw [lower_append_letter, List.count_append, lower, lowerAfter_eq_lowerBetween] at hcount
  exact absurd hcount (Nat.not_le_of_lt hless)

/-- If a sigma of the piece that is not final is final somewhere, the piece is not found behind a
letter: there are more sigmas that are not final in the piece than in the text. -/
theorem not_occurs_behind_letter {front back before : List Char}
    (hmedial : sigma front.reverse back = 'σ') (hback : reachesCased back = false)
    (hbefore : reachesCased (front.reverse ++ before)) :
    ¬ lower (front ++ 'Σ' :: back) <:+: lower ('a' :: (front ++ 'Σ' :: back)) := by
  intro hoccurs
  have hfront : reachesCased front.reverse = false := by
    rw [Bool.eq_false_iff]
    exact fun h => sigma_eq_medial_iff.mp hmedial (sigma_eq_final_iff.mpr ⟨h, hback⟩)
  have hless : (lowerBetween ['a'] [] (front ++ 'Σ' :: back)).count 'σ' <
      (lowerBetween [] [] (front ++ 'Σ' :: back)).count 'σ' := by
    refine count_lowerBetween_lt (fun f b _ h => ?_) (fun h => ?_)
      (by rwa [List.append_nil, List.append_nil])
    · rw [sigma_eq_medial_iff] at h ⊢
      intro hfinal
      obtain ⟨hf, hb⟩ := sigma_eq_final_iff.mp hfinal
      rw [List.append_nil] at hf
      exact h (sigma_eq_final_iff.mpr ⟨reachesCased_append_of_true hf _, hb⟩)
    · exact sigma_eq_medial_iff.mp h (sigma_eq_final_iff.mpr
        ⟨reachesCased_letter hfront hbefore, by rwa [List.append_nil]⟩)
  have hcount := hoccurs.sublist.count_le 'σ'
  rw [lower_letter_cons, List.count_cons_of_ne (by decide), lower, lowerAfter_eq_lowerBetween]
    at hcount
  exact absurd hcount (Nat.not_le_of_lt hless)

/-- The pieces that are found in every text that holds them are those whose capital sigmas keep their
letters everywhere. -/
theorem occurs_everywhere_iff {piece : List Char} :
    (∀ cs, piece <:+: cs → lower piece <:+: lower cs) ↔
      ∀ before after, KeepsSigmas before piece after := by
  constructor
  · rintro hfound before after front back rfl
    refine Decidable.byContradiction fun hne => ?_
    by_cases hfinal : sigma front.reverse back = 'ς'
    · have hfront := reachesCased_append_of_true (sigma_eq_final_iff.mp hfinal).1 before.reverse
      rw [hfinal, sigma_eq_final_iff, not_and, Bool.not_eq_false] at hne
      exact not_occurs_before_letter hfinal (hne hfront)
        (hfound _ (List.prefix_append _ _).isInfix)
    · have hmedial := sigma_eq_medial_iff.mpr hfinal
      rw [hmedial, sigma_eq_medial_iff, Decidable.not_not, sigma_eq_final_iff] at hne
      exact not_occurs_behind_letter hmedial (reachesCased_of_append hne.2) hne.1
        (hfound _ (List.suffix_cons _ _).isInfix)
  · rintro hkeeps cs ⟨before, after, rfl⟩
    exact (hkeeps before after).lower_occurs

end NoteQuery.Text
