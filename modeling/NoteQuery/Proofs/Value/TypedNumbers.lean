import Mathlib.RingTheory.Multiplicity
import NoteQuery.Proofs.Binary64.ShortDecimals
import NoteQuery.Proofs.Note.NoteValues

/-!
# Numbers as they are typed

A number can be typed in many ways, and its text is only one of them. This module compares the two:
where does the text of a number occur in what was typed?

* `Numeral`, `number?_eq_some_iff`: the ways to type a number.
* `integer_occurs_iff`: integers. Those with too many digits have the text of a float; in the others
  only zeros behind a minus sign can be in the way.
* `sides_of_fractional_occurs`: a decimal needs digits on both sides of its point.
* `fractional_occurs_iff`: for decimals of at most fifteen significant digits, neither very large nor
  very small, that is enough, but for zeros behind a minus sign.
-/

namespace NoteQuery

/-! ## Texts of floats -/

namespace Binary64

theorem Decimal.RoundsTo.digits_pos {x : Decimal} {units : Nat} (h : x.RoundsTo units)
    (hunits : units ≠ 0) : 0 < x.digits := by
  apply Nat.pos_of_ne_zero
  intro hzero
  obtain ⟨hlower, -⟩ := near_of_roundsTo h
  rw [hzero, Nat.zero_mul, Nat.mul_zero, Nat.zero_add] at hlower
  have hle := Nat.le_of_mul_le_mul_right hlower (stepDen_pos x.exponent)
  rcases gap_eq_one_or units with hgap | hgap <;> omega

theorem shortest_cases {units : Nat} (h : units ≠ 0) :
    shortest units = ⟨0, 0⟩ ∨ 0 < (shortest units).digits := by
  unfold shortest
  dsimp only
  cases hfind : (List.range 17).findSome? fun n : Nat => onGrid? units (leadingPlace units - n) with
  | none => exact .inl rfl
  | some x =>
    obtain ⟨n, -, hn⟩ := List.exists_of_findSome?_eq_some hfind
    exact .inr ((roundsTo_of_onGrid? hn).digits_pos h)

theorem rdropWhile_toDigits_ne_nil {d : Nat} (h : 0 < d) :
    (Nat.toDigits 10 d).rdropWhile (· == '0') ≠ [] := by
  obtain ⟨c, cs, hcs, hc⟩ := Text.exists_cons_toDigits h
  rw [hcs, Ne, List.rdropWhile_eq_nil_iff]
  intro hall
  exact hc (by simpa using hall c List.mem_cons_self)

theorem isDigit_of_mem_rdropWhile {d : Nat} {c : Char}
    (h : c ∈ (Nat.toDigits 10 d).rdropWhile (· == '0')) : c.isDigit := by
  have hbegins := List.rdropWhile_prefix (· == '0') (Nat.toDigits 10 d)
  exact Scalar.isDigit_of_mem_toDigits (hbegins.mem h)

theorem exists_point_positional {ds : List Char} {place : Int} (hds : ∀ c ∈ ds, c.isDigit)
    (h : 0 ≤ place ∨ ds ≠ []) :
    ∃ whole fraction, positional ds place = whole ++ '.' :: fraction ∧ whole ≠ [] ∧
      (∀ c ∈ whole, c.isDigit) ∧ fraction ≠ [] := by
  unfold positional
  split
  · rename_i hneg
    refine ⟨['0'], zeros (-place - 1).toNat ++ ds, rfl, by simp, by simp, ?_⟩
    exact List.append_ne_nil_of_right_ne_nil _ (h.resolve_left (by omega))
  · refine ⟨_, _, rfl, ?_, ?_, ?_⟩
    · apply List.ne_nil_of_length_pos
      rw [zeros, List.length_append, List.length_take, List.length_replicate]
      omega
    · intro c hc
      rcases List.mem_append.mp hc with hc | hc
      · exact hds c (List.mem_of_mem_take hc)
      · exact isDigit_of_mem_zeros hc
    · split
      · simp
      · rename_i hne
        simpa using hne

/-- The text of a finite number has a point with digits on both sides, or an exponent. -/
theorem exists_point_write (layout : Layout) (negative : Bool) (units : Nat) :
    (∃ sign whole fraction, layout.write negative units = sign ++ (whole ++ '.' :: fraction) ∧
      whole ≠ [] ∧ (∀ c ∈ whole, c.isDigit) ∧ fraction ≠ []) ∨
      'e' ∈ layout.write negative units := by
  by_cases hunits : units = 0
  · left
    refine ⟨if negative then ['-'] else [], ['0'], ['0'], ?_, by simp, by simp, by simp⟩
    unfold Layout.write
    dsimp only
    rw [if_pos hunits]
    rfl
  · cases hshortest : shortest units with
    | mk d exponent =>
      have hsome : 0 ≤ firstPlace d exponent ∨ (Nat.toDigits 10 d).rdropWhile (· == '0') ≠ [] := by
        rcases shortest_cases hunits with hzero | hpos
        · rw [hshortest] at hzero
          cases hzero
          exact .inl (by decide)
        · rw [hshortest] at hpos
          exact .inr (rdropWhile_toDigits_ne_nil hpos)
      rw [write_of_shortest hshortest hunits, Layout.digits]
      generalize (if negative then ['-'] else []) = sign
      split
      · left
        obtain ⟨whole, fraction, heq, hpoint⟩ :=
          exists_point_positional (fun c => isDigit_of_mem_rdropWhile) hsome
        exact ⟨sign, whole, fraction, by rw [heq], hpoint⟩
      · right
        simp [scientific]

/-- The text of a number has a point with digits on both sides, or a letter. -/
theorem exists_point {x : Binary64} (h : x ≠ .nan) :
    (∃ sign whole fraction, x.chars = sign ++ (whole ++ '.' :: fraction) ∧ whole ≠ [] ∧
      (∀ c ∈ whole, c.isDigit) ∧ fraction ≠ []) ∨ 'e' ∈ x.chars ∨ 'i' ∈ x.chars := by
  cases x with
  | nan => exact absurd rfl h
  | infinite negative =>
    right
    right
    cases negative <;> simp [chars]
  | finite negative units =>
    exact (exists_point_write textLayout negative units).imp_right .inl

end Binary64

namespace Scalar

/-! ## The ways to type a number -/

/-- What may stand before a number. -/
def IsSign (sign : List Char) : Prop := sign = [] ∨ sign = ['+'] ∨ sign = ['-']

/-- The texts of numbers, and the numbers. -/
inductive Numeral : List Char → Value → Prop
  | integer {sign whole : List Char} (hsign : IsSign sign) (hne : whole ≠ [])
      (hwhole : ∀ c ∈ whole, c.isDigit) :
    Numeral (sign ++ whole) (Scalar.integer (sign == ['-']) whole)
  | fractional {sign whole fraction : List Char} (hsign : IsSign sign)
      (hne : whole ≠ [] ∨ fraction ≠ []) (hwhole : ∀ c ∈ whole, c.isDigit)
      (hfraction : ∀ c ∈ fraction, c.isDigit) :
    Numeral (sign ++ (whole ++ '.' :: fraction)) (Scalar.fractional (sign == ['-']) whole fraction)

theorem takeSign_append {sign cs : List Char} (hsign : IsSign sign)
    (hcs : ∀ c ∈ cs.head?, c ≠ '-' ∧ c ≠ '+') :
    Text.takeSign (sign ++ cs) = (sign == ['-'], cs) := by
  rcases hsign with rfl | rfl | rfl
  · cases cs with
    | nil => rfl
    | cons c cs => exact takeSign_eq_self (hcs c rfl) cs
  · rfl
  · rfl

theorem exists_takeSign (cs : List Char) :
    ∃ sign, IsSign sign ∧ Text.takeSign cs = (sign == ['-'], (Text.takeSign cs).2) ∧
      cs = sign ++ (Text.takeSign cs).2 := by
  unfold Text.takeSign
  split
  · exact ⟨['-'], .inr (.inr rfl), rfl, rfl⟩
  · exact ⟨['+'], .inr (.inl rfl), rfl, rfl⟩
  · exact ⟨[], .inl rfl, rfl, rfl⟩

theorem number?_integer {sign whole : List Char} (hsign : IsSign sign) (hne : whole ≠ [])
    (hwhole : ∀ c ∈ whole, c.isDigit) :
    number? (sign ++ whole) = some (integer (sign == ['-']) whole) := by
  apply number?_digits hne hwhole
  apply takeSign_append hsign
  intro c hc
  have hdigit := hwhole c (List.mem_of_mem_head? hc)
  exact ⟨ne_of_isDigit hdigit (by decide), ne_of_isDigit hdigit (by decide)⟩

theorem number?_fractional {sign whole fraction : List Char} (hsign : IsSign sign)
    (hne : whole ≠ [] ∨ fraction ≠ []) (hwhole : ∀ c ∈ whole, c.isDigit)
    (hfraction : ∀ c ∈ fraction, c.isDigit) :
    number? (sign ++ (whole ++ '.' :: fraction)) =
      some (fractional (sign == ['-']) whole fraction) := by
  have htake : Text.takeSign (sign ++ (whole ++ '.' :: fraction)) =
      (sign == ['-'], whole ++ '.' :: fraction) := by
    apply takeSign_append hsign
    intro c hc
    cases whole with
    | nil =>
      cases hc
      decide
    | cons d ds =>
      cases hc
      have hdigit := hwhole c List.mem_cons_self
      exact ⟨ne_of_isDigit hdigit (by decide), ne_of_isDigit hdigit (by decide)⟩
  have hpoint : ('.' :: fraction).takeWhile Char.isDigit = [] ∧
      ('.' :: fraction).dropWhile Char.isDigit = '.' :: fraction := ⟨rfl, rfl⟩
  have hall : fraction.all Char.isDigit = true := List.all_eq_true.mpr hfraction
  have hnonempty : (whole.isEmpty && fraction.isEmpty) = false := by
    rcases hne with hne | hne <;> simp [hne]
  unfold number?
  rw [htake]
  dsimp only
  rw [List.takeWhile_append_of_pos hwhole, List.dropWhile_append_of_pos hwhole, hpoint.1, hpoint.2,
    List.append_nil]
  simp [hall, hnonempty]

theorem numeral_of_number? {cs : List Char} {v : Value} (h : number? cs = some v) :
    Numeral cs v := by
  obtain ⟨sign, hsign, htake, hcs⟩ := exists_takeSign cs
  have hwhole : ∀ c ∈ (Text.takeSign cs).2.takeWhile Char.isDigit, c.isDigit :=
    fun c hc => List.all_eq_true.mp List.all_takeWhile c hc
  have hcut : (Text.takeSign cs).2.takeWhile Char.isDigit ++
      (Text.takeSign cs).2.dropWhile Char.isDigit = (Text.takeSign cs).2 :=
    List.takeWhile_append_dropWhile
  unfold number? at h
  rw [htake] at h
  dsimp only at h
  rw [hcs, ← hcut]
  generalize (Text.takeSign cs).2.takeWhile Char.isDigit = whole at *
  split at h
  · rename_i hdrop
    split at h
    · cases h
    · rename_i hne
      cases h
      rw [hdrop, List.append_nil]
      exact .integer hsign (by simpa using hne) hwhole
  · rename_i c fraction hdrop
    split at h
    · rename_i hfraction
      simp only [Bool.and_eq_true, decide_eq_true_eq, Bool.not_eq_true', Bool.and_eq_false_iff,
        List.isEmpty_eq_false_iff] at hfraction
      obtain ⟨⟨rfl, hfraction⟩, hne⟩ := hfraction
      cases h
      rw [hdrop]
      exact .fractional hsign hne hwhole (List.all_eq_true.mp hfraction)
    · cases h

theorem number?_eq_some_iff {cs : List Char} {v : Value} :
    number? cs = some v ↔ Numeral cs v := by
  refine ⟨numeral_of_number?, fun h => ?_⟩
  cases h with
  | integer hsign hne hwhole => exact number?_integer hsign hne hwhole
  | fractional hsign hne hwhole hfraction => exact number?_fractional hsign hne hwhole hfraction

/-! ## Zeros in front -/

/-- The digits begin with a zero that could be left out. -/
def HasSpareZero (whole : List Char) : Prop := ∃ rest, whole = '0' :: rest ∧ rest ≠ []

theorem not_hasSpareZero_toDigits (n : Nat) : ¬ HasSpareZero (Nat.toDigits 10 n) := by
  rintro ⟨rest, hdigits, hrest⟩
  rcases Nat.eq_zero_or_pos n with rfl | hn
  · rw [Nat.toDigits_zero, List.cons.injEq] at hdigits
    exact hrest hdigits.2.symm
  · obtain ⟨c, cs, hcs, hc⟩ := Text.exists_cons_toDigits hn
    rw [hcs, List.cons.injEq] at hdigits
    exact hc hdigits.1

theorem hasSpareZero_append_iff {whole : List Char} (hne : whole ≠ [])
    (h : ¬ HasSpareZero whole) (k : Nat) :
    HasSpareZero (List.replicate k '0' ++ whole) ↔ k ≠ 0 := by
  cases k with
  | zero => simpa using h
  | succ k =>
    refine ⟨fun _ => by simp, fun _ => ⟨List.replicate k '0' ++ whole, rfl, ?_⟩⟩
    exact List.append_ne_nil_of_right_ne_nil _ hne

/-- A number does not begin where zeros stand in front of it, unless the number is a zero. -/
theorem not_begins_of_zeros {whole tail : List Char} (hne : whole ≠ [])
    (hspare : ¬ HasSpareZero whole) (hzero : whole = ['0'] → ∃ c cs, tail = c :: cs ∧ c ≠ '0')
    {k : Nat} (hk : k ≠ 0) (back : List Char) :
    ¬ whole ++ tail <+: List.replicate k '0' ++ (whole ++ tail ++ back) := by
  obtain ⟨k, rfl⟩ := Nat.exists_eq_add_one_of_ne_zero hk
  obtain ⟨c, cs, rfl⟩ := List.exists_cons_of_ne_nil hne
  rw [List.replicate_succ, List.cons_append, List.cons_append, List.cons_prefix_cons]
  rintro ⟨rfl, hbegins⟩
  -- The number begins with a zero, so it is one, and the next character tells it from the zeros.
  have hcs : cs = [] := by
    by_contra hcs
    exact hspare ⟨cs, rfl, hcs⟩
  subst hcs
  obtain ⟨d, ds, rfl, hd⟩ := hzero rfl
  cases k with
  | zero => exact hd (List.cons_prefix_cons.mp hbegins).1
  | succ k => exact hd (List.cons_prefix_cons.mp hbegins).1

/-- A number with its sign occurs in what was typed unless zeros stand behind a minus sign. -/
theorem signed_occurs_iff {sign core back : List Char} {k : Nat} (hsign : IsSign sign)
    (hminus : '-' ∉ core) (hback : '-' ∉ back)
    (hcore : k ≠ 0 → ¬ core <+: List.replicate k '0' ++ (core ++ back)) :
    (if sign == ['-'] then ['-'] else []) ++ core <:+:
        sign ++ (List.replicate k '0' ++ (core ++ back)) ↔ (sign = ['-'] → k = 0) := by
  by_cases hneg : sign = ['-']
  · subst hneg
    have hno : '-' ∉ List.replicate k '0' ++ (core ++ back) := by
      simp [List.mem_replicate, hminus, hback]
    simp only [beq_self_eq_true, if_true, List.cons_append, List.nil_append, forall_const]
    rw [List.infix_cons_iff, List.cons_prefix_cons]
    constructor
    · rintro (⟨-, hbegins⟩ | hoccurs)
      · by_contra hk
        exact hcore hk hbegins
      · exact absurd (hoccurs.subset List.mem_cons_self) hno
    · rintro rfl
      exact .inl ⟨rfl, List.prefix_append _ _⟩
  · rw [if_neg (by simpa using hneg)]
    refine ⟨fun _ h => absurd h hneg, fun _ => ⟨sign ++ List.replicate k '0', back, ?_⟩⟩
    simp only [List.append_assoc, List.nil_append]

theorem minus_notMem_of_digits {ds : List Char} (h : ∀ c ∈ ds, c.isDigit) : '-' ∉ ds :=
  fun hmem => absurd (h '-' hmem) (by decide)

/-! ## Integers -/

theorem plainChars_integer {negative : Bool} {whole : List Char}
    (h : whole.length ≤ Text.digitLimit) :
    (integer negative whole).plainChars =
      (if negative && Text.natOfDigits whole != 0 then ['-'] else []) ++
        Nat.toDigits 10 (Text.natOfDigits whole) := by
  unfold integer
  dsimp only
  rw [if_pos h]
  show Value.intChars _ = _
  unfold Value.intChars
  generalize Text.natOfDigits whole = n
  cases negative with
  | false => simp
  | true =>
    rcases Nat.eq_zero_or_pos n with rfl | hn
    · simp
    · simp [hn, Nat.ne_of_gt hn]

theorem IsSign.eq_of_mem {sign : List Char} (h : IsSign sign) {c : Char} (hc : c ∈ sign) :
    c = '+' ∨ c = '-' := by
  rcases h with rfl | rfl | rfl
  · cases hc
  · exact .inl (List.mem_singleton.mp hc)
  · exact .inr (List.mem_singleton.mp hc)

theorem notMem_integer {sign whole : List Char} (hsign : IsSign sign)
    (hwhole : ∀ c ∈ whole, c.isDigit) {c : Char} (hplus : c ≠ '+') (hminus : c ≠ '-')
    (hdigit : c.isDigit = false) : c ∉ sign ++ whole := by
  intro hc
  rcases List.mem_append.mp hc with hc | hc
  · rcases hsign.eq_of_mem hc with h | h
    · exact hplus h
    · exact hminus h
  · rw [hwhole c hc] at hdigit
    cases hdigit

/-- The text of a float has a character that integers are not typed with. -/
theorem not_float_occurs {x : Binary64} (hx : x ≠ .nan) {sign whole : List Char}
    (hsign : IsSign sign) (hwhole : ∀ c ∈ whole, c.isDigit) : ¬ x.chars <:+: sign ++ whole := by
  intro hoccurs
  rcases Binary64.exists_point hx with ⟨front, w, f, hchars, -⟩ | hletter | hletter
  · have hpoint : '.' ∈ x.chars := by simp [hchars]
    exact notMem_integer hsign hwhole (by decide) (by decide) (by decide) (hoccurs.subset hpoint)
  · exact notMem_integer hsign hwhole (by decide) (by decide) (by decide) (hoccurs.subset hletter)
  · exact notMem_integer hsign hwhole (by decide) (by decide) (by decide) (hoccurs.subset hletter)

/-- The text of an integer occurs in what was typed unless there are too many digits, or spare zeros
behind a minus sign in front of another digit. -/
theorem integer_occurs_iff {sign whole : List Char} (hsign : IsSign sign) (hne : whole ≠ [])
    (hwhole : ∀ c ∈ whole, c.isDigit) :
    (integer (sign == ['-']) whole).plainChars <:+: sign ++ whole ↔
      whole.length ≤ Text.digitLimit ∧
        (sign = ['-'] → HasSpareZero whole → Text.natOfDigits whole = 0) := by
  by_cases hlimit : whole.length ≤ Text.digitLimit
  · obtain ⟨k, hk⟩ := Text.exists_zeros_append hwhole hne
    have hspare : HasSpareZero whole ↔ k ≠ 0 := by
      rw [hk]
      exact hasSpareZero_append_iff Nat.toDigits_ne_nil (not_hasSpareZero_toDigits _) k
    rw [plainChars_integer hlimit]
    rcases Nat.eq_zero_or_pos (Text.natOfDigits whole) with hzero | hpos
    · rw [hzero, Bool.and_comm]
      refine iff_of_true ?_ ⟨hlimit, fun _ _ => rfl⟩
      rw [hzero] at hk
      rw [hk]
      exact ⟨sign ++ List.replicate k '0', [], by simp⟩
    · have hfirst : Nat.toDigits 10 (Text.natOfDigits whole) ≠ ['0'] := by
        obtain ⟨c, cs, hcs, hc⟩ := Text.exists_cons_toDigits hpos
        rw [hcs]
        exact fun h => hc (List.cons.inj h).1
      have hcore : k ≠ 0 → ¬ Nat.toDigits 10 (Text.natOfDigits whole) <+:
          List.replicate k '0' ++ (Nat.toDigits 10 (Text.natOfDigits whole) ++ []) := by
        intro hk
        have hzero : Nat.toDigits 10 (Text.natOfDigits whole) = ['0'] →
            ∃ c cs, [] = c :: cs ∧ c ≠ '0' := fun h => absurd h hfirst
        have hnot := not_begins_of_zeros Nat.toDigits_ne_nil (not_hasSpareZero_toDigits _) hzero hk []
        rwa [List.append_nil] at hnot
      have hsigned := signed_occurs_iff hsign
        (minus_notMem_of_digits fun c => isDigit_of_mem_toDigits) List.not_mem_nil hcore
      rw [List.append_nil, ← hk] at hsigned
      have hnonzero : (Text.natOfDigits whole != 0) = true := by simpa using Nat.ne_of_gt hpos
      rw [hnonzero, Bool.and_true, hsigned, hspare]
      constructor
      · exact fun h => ⟨hlimit, fun hneg hk => absurd (h hneg) hk⟩
      · intro h hneg
        by_contra hk
        exact Nat.ne_of_gt hpos (h.2 hneg hk)
  · refine iff_of_false ?_ fun h => hlimit h.1
    unfold integer
    dsimp only
    rw [if_neg hlimit]
    exact not_float_occurs (Binary64.ofDecimal_ne_nan _ _ _) hsign hwhole

/-! ## Decimals -/

/-- A text with one point is cut there in one way. -/
theorem append_point_inj {xs ys us vs : List Char} (hus : '.' ∉ us) (hvs : '.' ∉ vs)
    (h : xs ++ '.' :: ys = us ++ '.' :: vs) : xs = us ∧ ys = vs := by
  rcases List.append_eq_append_iff.mp h with ⟨cs, rfl, hcs⟩ | ⟨cs, rfl, hcs⟩
  · cases cs with
    | nil => simpa using hcs
    | cons c cs =>
      rw [List.cons_append, List.cons.injEq] at hcs
      exact absurd (by simp [← hcs.1]) hus
  · cases cs with
    | nil => simpa using hcs.symm
    | cons c cs =>
      rw [List.cons_append, List.cons.injEq] at hcs
      exact absurd (by simp [hcs.2]) hvs

/-- The text of a decimal can only occur in what was typed if there are digits on both sides of the
point. -/
theorem sides_of_fractional_occurs {sign whole fraction : List Char} (hsign : IsSign sign)
    (hwhole : ∀ c ∈ whole, c.isDigit) (hfraction : ∀ c ∈ fraction, c.isDigit)
    (h : (fractional (sign == ['-']) whole fraction).plainChars <:+:
      sign ++ (whole ++ '.' :: fraction)) : whole ≠ [] ∧ fraction ≠ [] := by
  have hleft : ∀ {c : Char}, c ≠ '+' → c ≠ '-' → c.isDigit = false → c ∉ sign ++ whole :=
    fun hplus hminus hdigit => notMem_integer hsign hwhole hplus hminus hdigit
  have hright : ∀ {c : Char}, c.isDigit = false → c ∉ fraction := by
    intro c hdigit hc
    rw [hfraction c hc] at hdigit
    cases hdigit
  have hletter : ∀ {c : Char}, c ≠ '+' → c ≠ '-' → c ≠ '.' → c.isDigit = false →
      c ∉ sign ++ (whole ++ '.' :: fraction) := by
    intro c hplus hminus hpoint hdigit hc
    rw [← List.append_assoc, List.mem_append, List.mem_cons] at hc
    rcases hc with hc | hc | hc
    · exact hleft hplus hminus hdigit hc
    · exact hpoint hc
    · exact hright hdigit hc
  have hfloat : (fractional (sign == ['-']) whole fraction).plainChars =
      (Binary64.ofDecimal (sign == ['-']) (Text.natOfDigits (whole ++ fraction))
        (-fraction.length)).chars := rfl
  rw [hfloat] at h
  rcases Binary64.exists_point (Binary64.ofDecimal_ne_nan _ _ _) with
    ⟨front, w, f, hchars, hw, hdigits, hf⟩ | he | hi
  · obtain ⟨before, after, heq⟩ := h
    have hcut : (before ++ (front ++ w)) ++ '.' :: (f ++ after) =
        (sign ++ whole) ++ '.' :: fraction := by
      rw [hchars] at heq
      simpa only [List.append_assoc, List.cons_append] using heq
    obtain ⟨hfront, hback⟩ := append_point_inj (hleft (by decide) (by decide) (by decide))
      (hright (by decide)) hcut
    refine ⟨?_, ?_⟩
    · rintro rfl
      obtain ⟨c, hc⟩ := List.exists_mem_of_ne_nil w hw
      have hmem : c ∈ sign := by
        rw [List.append_nil] at hfront
        rw [← hfront]
        simp [hc]
      have hdigit := hdigits c hc
      rcases hsign.eq_of_mem hmem with rfl | rfl
      · cases hdigit
      · cases hdigit
    · rw [← hback]
      exact List.append_ne_nil_of_left_ne_nil hf _
  · exact absurd (h.subset he) (hletter (by decide) (by decide) (by decide) (by decide))
  · exact absurd (h.subset hi) (hletter (by decide) (by decide) (by decide) (by decide))

/-! ## Short decimals -/

/-- A decimal of at most fifteen significant digits that is zero, or at least `10^-4` and less than
`10^16`. -/
structure IsShort (whole fraction : List Char) : Prop where
  significant : ∃ d k, Text.natOfDigits (whole ++ fraction) = d * 10 ^ k ∧ d < 10 ^ 15
  range : Text.natOfDigits (whole ++ fraction) = 0 ∨
    10 ^ fraction.length ≤ Text.natOfDigits (whole ++ fraction) * 10 ^ 4 ∧
      Text.natOfDigits (whole ++ fraction) < 10 ^ (fraction.length + 16)

/-- The digits on both sides of a point, without the zeros that can be left out. -/
structure IsTrimmed (whole fraction front back : List Char) : Prop where
  whole_eq : ∃ k, whole = List.replicate k '0' ++ front
  fraction_eq : ∃ m, fraction = back ++ List.replicate m '0'
  front_ne : front ≠ []
  not_spare : ¬ HasSpareZero front

theorem isTrimmed_zero {k : Nat} (hk : k ≠ 0) {fraction back : List Char}
    (hback : ∃ m, fraction = back ++ List.replicate m '0') :
    IsTrimmed (List.replicate k '0') fraction ['0'] back := by
  obtain ⟨k, rfl⟩ := Nat.exists_eq_add_one_of_ne_zero hk
  refine ⟨⟨k, List.replicate_succ'⟩, hback, by simp, ?_⟩
  rintro ⟨rest, hrest, hne⟩
  exact hne (List.cons.inj hrest).2.symm

/-- Zeros alone are a zero and other zeros. -/
theorem exists_zeros {m : Nat} {fraction : List Char} (hne : fraction ≠ [])
    (h : fraction = List.replicate m '0') : ∃ m, fraction = ['0'] ++ List.replicate m '0' := by
  cases m with
  | zero => exact absurd h hne
  | succ m => exact ⟨m, h⟩

/-- Digits are written without an exponent as they were typed. -/
theorem exists_positional {ds whole fraction : List Char} {a j : Nat} {place : Int}
    (hsplit : whole ++ fraction = List.replicate a '0' ++ (ds ++ List.replicate j '0'))
    (hds : ∃ c cs, ds = c :: cs ∧ c ≠ '0') (hwhole : whole ≠ []) (hfraction : fraction ≠ [])
    (hplace : place + 1 = whole.length - a) :
    ∃ front back, Binary64.positional ds place = front ++ '.' :: back ∧
      IsTrimmed whole fraction front back := by
  obtain ⟨c, cs, rfl, hc⟩ := hds
  have htake : whole = (List.replicate a '0' ++ (c :: cs ++ List.replicate j '0')).take
      whole.length := by rw [← hsplit, List.take_left]
  have hdrop : fraction = (List.replicate a '0' ++ (c :: cs ++ List.replicate j '0')).drop
      whole.length := by rw [← hsplit, List.drop_left]
  rw [List.take_append, List.take_replicate, List.length_replicate] at htake
  rw [List.drop_append, List.drop_replicate, List.length_replicate] at hdrop
  unfold Binary64.positional
  rcases Nat.lt_or_ge a whole.length with hlt | hge
  · -- The point stands behind the first digit.
    obtain ⟨n, hn⟩ : ∃ n, whole.length - a = n + 1 :=
      Nat.exists_eq_add_one_of_ne_zero (by omega)
    have hplace' : place.toNat + 1 = n + 1 := by omega
    rw [hn, List.take_append, Nat.min_eq_right (Nat.le_of_lt hlt)] at htake
    rw [hn, List.drop_append, Nat.sub_eq_zero_of_le (Nat.le_of_lt hlt), List.replicate_zero,
      List.nil_append, List.drop_replicate] at hdrop
    rw [if_neg (by omega), hplace']
    dsimp only
    have hshort : n + 1 - (c :: cs).length ≤ j := by
      by_contra hlong
      have hnil : (c :: cs).drop (n + 1) = [] := List.drop_eq_nil_of_le (by omega)
      rw [hnil, Nat.sub_eq_zero_of_le (by omega)] at hdrop
      exact hfraction hdrop
    rw [List.take_replicate, Nat.min_eq_left hshort] at htake
    refine ⟨_, _, rfl, ⟨a, htake⟩, ?_, by simp, ?_⟩
    · split
      · rename_i hempty
        rw [List.isEmpty_iff.mp hempty, List.nil_append] at hdrop
        exact exists_zeros hfraction hdrop
      · exact ⟨_, hdrop⟩
    · rintro ⟨rest, hrest, -⟩
      exact hc (List.cons.inj hrest).1
  · -- The point stands in front of the digits.
    rw [Nat.min_eq_left hge, Nat.sub_eq_zero_of_le hge, List.take_zero, List.append_nil] at htake
    rw [Nat.sub_eq_zero_of_le hge, List.drop_zero, ← List.append_assoc] at hdrop
    have hzeros : (-place - 1).toNat = a - whole.length := by omega
    have htrimmed := isTrimmed_zero (k := whole.length) (by simpa using hwhole) ⟨j, hdrop⟩
    rw [← htake] at htrimmed
    rw [if_pos (by omega), hzeros]
    exact ⟨['0'], _, rfl, htrimmed⟩

theorem exists_significant {n d k : Nat} (hn : n = d * 10 ^ k) (hpos : 0 < n) :
    ∃ d' j, n = d' * 10 ^ j ∧ ¬ 10 ∣ d' ∧ d' ≤ d := by
  have hd : 0 < d := by
    apply Nat.pos_of_ne_zero
    rintro rfl
    omega
  obtain ⟨d', hd', hlast⟩ :=
    (Nat.finiteMultiplicity_iff.mpr ⟨by decide, hd⟩ : FiniteMultiplicity 10 d)
      |>.exists_eq_pow_mul_and_not_dvd
  refine ⟨d', multiplicity 10 d + k, ?_, hlast, ?_⟩
  · calc n = 10 ^ multiplicity 10 d * d' * 10 ^ k := by rw [← hd', hn]
      _ = d' * 10 ^ (multiplicity 10 d + k) := by
        rw [Nat.pow_add]
        ring
  · exact Nat.le_of_dvd hd ⟨_, hd'.trans (Nat.mul_comm _ _)⟩

/-- The text of a number other than zero, by its significant digits. -/
theorem chars_ofDecimal {d j w : Nat} (hd : d < 10 ^ 15) (hlast : ¬ 10 ∣ d)
    (hlow : 10 ^ w ≤ d * 10 ^ j * 10 ^ 4) (hhigh : d * 10 ^ j < 10 ^ (w + 16)) (negative : Bool) :
    (Binary64.ofDecimal negative (d * 10 ^ j) (-(w : Int))).chars =
      (if negative then ['-'] else []) ++
        Binary64.positional (Nat.toDigits 10 d) (Binary64.firstPlace d (-(w : Int) + j)) := by
  have hpos := Text.pos_of_not_dvd hlast
  obtain ⟨k, hk⟩ := Text.exists_length_toDigits d
  obtain ⟨hle, hlt⟩ := Text.bounds_of_length_toDigits hpos hk
  have hplace : Binary64.firstPlace d (-(w : Int) + j) = k + j - w := by
    rw [Binary64.firstPlace, hk]
    omega
  have hleast : w < k + 1 + j + 4 := by
    rw [← Nat.pow_lt_pow_iff_right (a := 10) (by decide), Nat.pow_add _ _ 4, Nat.pow_add _ _ j]
    refine Nat.lt_of_le_of_lt hlow ?_
    exact Nat.mul_lt_mul_of_pos_right (Nat.mul_lt_mul_of_pos_right hlt (Nat.pow_pos (by decide)))
      (by decide)
  have hlimit : k + j < w + 16 := by
    rw [← Nat.pow_lt_pow_iff_right (a := 10) (by decide), Nat.pow_add _ k j]
    exact Nat.lt_of_le_of_lt (Nat.mul_le_mul_right _ hle) hhigh
  have hrange : -300 ≤ Binary64.firstPlace d (-(w : Int) + j) ∧
      Binary64.firstPlace d (-(w : Int) + j) < 300 := by omega
  obtain ⟨units, hfinite, hwrite⟩ := Binary64.exists_write_ofDecimal hd hlast hrange negative
  have hin : (Binary64.textLayout.least ≤ Binary64.firstPlace d (-(w : Int) + j) &&
      Binary64.firstPlace d (-(w : Int) + j) < Binary64.textLayout.limit) = true := by
    rw [hplace, Bool.and_eq_true, decide_eq_true_eq, decide_eq_true_eq]
    simp only [Binary64.textLayout]
    omega
  rw [Binary64.ofDecimal_mul_pow, hfinite]
  show Binary64.textLayout.write negative units = _
  rw [hwrite, Binary64.Layout.digits, if_pos hin]

/-- The text of a short decimal is what was typed, without the zeros that can be left out. -/
theorem exists_text_of_short {whole fraction : List Char} (h : IsShort whole fraction)
    (hdigits : ∀ c ∈ whole ++ fraction, c.isDigit) (hwhole : whole ≠ []) (hfraction : fraction ≠ [])
    (negative : Bool) :
    ∃ front back, (fractional negative whole fraction).plainChars =
        (if negative then ['-'] else []) ++ (front ++ '.' :: back) ∧
      IsTrimmed whole fraction front back := by
  have hne : whole ++ fraction ≠ [] := List.append_ne_nil_of_left_ne_nil hwhole _
  obtain ⟨a, ha⟩ := Text.exists_zeros_append hdigits hne
  show ∃ front back, (Binary64.ofDecimal negative (Text.natOfDigits (whole ++ fraction))
    (-(fraction.length : Int))).chars = _ ∧ _
  rcases Nat.eq_zero_or_pos (Text.natOfDigits (whole ++ fraction)) with hzero | hpos
  · rw [hzero, Nat.toDigits_zero, ← List.replicate_succ', List.append_eq_replicate_iff] at ha
    obtain ⟨-, hzeros, hzeros'⟩ := ha
    have htrimmed := isTrimmed_zero (k := whole.length) (by simpa using hwhole)
      (exists_zeros hfraction hzeros')
    rw [← hzeros] at htrimmed
    refine ⟨['0'], ['0'], ?_, htrimmed⟩
    rw [hzero]
    rfl
  · obtain ⟨d, k, hn, hd⟩ := h.significant
    obtain ⟨d, j, hn, hlast, hle⟩ := exists_significant hn hpos
    obtain ⟨hlow, hhigh⟩ := h.range.resolve_left (Nat.ne_of_gt hpos)
    have hd := Text.pos_of_not_dvd hlast
    rw [hn] at ha hlow hhigh ⊢
    rw [Text.toDigits_mul_pow hd] at ha
    have hlength := congrArg List.length ha
    simp only [List.length_append, List.length_replicate] at hlength
    have hplace : Binary64.firstPlace d (-(fraction.length : Int) + j) + 1 = whole.length - a := by
      unfold Binary64.firstPlace
      omega
    obtain ⟨front, back, hpositional, htrimmed⟩ :=
      exists_positional ha (Text.exists_cons_toDigits hd) hwhole hfraction hplace
    exact ⟨front, back, by rw [chars_ofDecimal (by omega) hlast hlow hhigh, hpositional], htrimmed⟩

/-- The text of a short decimal occurs in what was typed if there are digits on both sides of the
point and no spare zeros behind a minus sign. -/
theorem fractional_occurs_iff {sign whole fraction : List Char} (hsign : IsSign sign)
    (hwhole : ∀ c ∈ whole, c.isDigit) (hfraction : ∀ c ∈ fraction, c.isDigit)
    (h : IsShort whole fraction) :
    (fractional (sign == ['-']) whole fraction).plainChars <:+:
        sign ++ (whole ++ '.' :: fraction) ↔
      whole ≠ [] ∧ fraction ≠ [] ∧ (sign = ['-'] → ¬ HasSpareZero whole) := by
  by_cases hsides : whole ≠ [] ∧ fraction ≠ []
  · obtain ⟨hw, hf⟩ := hsides
    have hdigits : ∀ c ∈ whole ++ fraction, c.isDigit := by
      intro c hc
      rcases List.mem_append.mp hc with hc | hc
      · exact hwhole c hc
      · exact hfraction c hc
    obtain ⟨front, back, htext, ⟨k, rfl⟩, ⟨m, rfl⟩, hne, hspare⟩ :=
      exists_text_of_short h hdigits hw hf (sign == ['-'])
    have hpoint : front = ['0'] → ∃ c cs, '.' :: back = c :: cs ∧ c ≠ '0' :=
      fun _ => ⟨'.', back, rfl, by decide⟩
    have hminus : '-' ∉ front ++ '.' :: back := by
      intro hmem
      simp only [List.mem_append, List.mem_cons] at hmem hwhole hfraction
      rcases hmem with hmem | hmem | hmem
      · exact absurd (hwhole '-' (.inr hmem)) (by decide)
      · cases hmem
      · exact absurd (hfraction '-' (.inl hmem)) (by decide)
    have hback : '-' ∉ List.replicate m '0' := by
      rw [List.mem_replicate]
      rintro ⟨-, h⟩
      cases h
    have hsigned := signed_occurs_iff (k := k) hsign hminus hback
      fun hk => not_begins_of_zeros hne hspare hpoint hk _
    have hspare' := hasSpareZero_append_iff hne hspare k
    rw [htext, hspare', not_not]
    simp only [List.append_assoc, List.cons_append] at hsigned ⊢
    rw [hsigned]
    exact ⟨fun h => ⟨hw, hf, h⟩, fun h => h.2.2⟩
  · refine iff_of_false (fun hoccurs => ?_) fun hright => hsides ⟨hright.1, hright.2.1⟩
    exact hsides (sides_of_fractional_occurs hsign hwhole hfraction hoccurs)

end Scalar

end NoteQuery
