import Mathlib.Data.List.DropRight
import NoteQuery.Proofs.Binary64.Rounding
import NoteQuery.Proofs.Text.Digits

/-!
# Decimals of fifteen digits

A decimal with at most fifteen significant digits survives being read and written: the number that
it is rounded to is written with the same digits. The numbers lie so close together that no other
point of the decimal's grid rounds to the same number, and so no point of a coarser grid does.

* `Decimal.units`, `Decimal.RoundsTo`: the number that a decimal is rounded to, and the numbers that
  it stands for.
* `shortest_of_roundsTo`: the decimal is the shortest one of its number.
* `exists_write_ofDecimal`: the text of the number has the digits of the decimal.
-/

namespace NoteQuery.Binary64

/-! ## Decimal grids -/

/-- The multiples of `10^place` are the multiples of `stepNum place / stepDen place` units. -/
def stepNum (place : Int) : Nat := unitsPerOne * 10 ^ place.toNat

def stepDen (place : Int) : Nat := 10 ^ (-place).toNat

theorem pow_lt_unitsPerOne : ∀ n ≤ 321, 4 * 10 ^ n < unitsPerOne := by decide +kernel

theorem unitsPerOne_pos : 0 < unitsPerOne :=
  Nat.lt_of_le_of_lt (Nat.zero_le _) (pow_lt_unitsPerOne 0 (by decide))

theorem stepDen_pos (place : Int) : 0 < stepDen place := Nat.pow_pos (by decide)

/-- Ten steps of a grid are a step of the next. -/
theorem step_add (place : Int) (k : Nat) :
    stepNum (place + k) * stepDen place = 10 ^ k * stepNum place * stepDen (place + k) := by
  have hexponents : (place + k).toNat + (-place).toNat =
      k + place.toNat + (-(place + k)).toNat := by omega
  calc stepNum (place + k) * stepDen place
      = unitsPerOne * 10 ^ ((place + k).toNat + (-place).toNat) := by
        rw [stepNum, stepDen, Nat.pow_add, Nat.mul_assoc]
    _ = 10 ^ k * stepNum place * stepDen (place + k) := by
        rw [hexponents, stepNum, stepDen, Nat.pow_add, Nat.pow_add]
        ring

/-- The grid is more than four times as wide as the gap behind the number. -/
def IsCoarse (units : Nat) (place : Int) : Prop :=
  4 * (gap units * stepDen place) < stepNum place

namespace Decimal

/-- The units of the number that the decimal is rounded to. -/
def units (x : Decimal) : Nat := roundUnits (x.digits * stepNum x.exponent) (stepDen x.exponent)

def RoundsTo (x : Decimal) (units : Nat) : Prop :=
  roundsTo units (4 * (x.digits * stepNum x.exponent)) (stepDen x.exponent)

theorem roundsTo_units (x : Decimal) : x.RoundsTo x.units :=
  roundsTo_roundUnits _ (stepDen_pos _)

/-- Both ways to write a fraction of units, with the same denominator. -/
theorem mul_step_add (d : Nat) (place : Int) (k : Nat) :
    stepDen place * (d * stepNum (place + k)) =
      stepDen (place + k) * (d * 10 ^ k * stepNum place) := by
  have hstep := step_add place k
  calc stepDen place * (d * stepNum (place + k))
      = d * (stepNum (place + k) * stepDen place) := by ring
    _ = stepDen (place + k) * (d * 10 ^ k * stepNum place) := by
        rw [hstep]
        ring

theorem units_add (d : Nat) (place : Int) (k : Nat) :
    units ⟨d, place + k⟩ = units ⟨d * 10 ^ k, place⟩ := by
  unfold units
  rw [← roundUnits_mul _ _ (stepDen_pos place), mul_step_add, Nat.mul_comm (stepDen place),
    roundUnits_mul _ _ (stepDen_pos _)]

theorem roundsTo_add {d units : Nat} {place : Int} {k : Nat} :
    RoundsTo ⟨d, place + k⟩ units ↔ RoundsTo ⟨d * 10 ^ k, place⟩ units := by
  unfold RoundsTo
  rw [← roundsTo_mul _ _ _ (stepDen_pos place), Nat.mul_left_comm, mul_step_add,
    Nat.mul_left_comm 4, Nat.mul_comm (stepDen place), roundsTo_mul _ _ _ (stepDen_pos _)]

/-! ## At most fifteen digits -/

/-- The grid of a decimal with at most fifteen digits is coarse for the number. -/
theorem RoundsTo.isCoarse {d units : Nat} {place : Int} (h : RoundsTo ⟨d, place⟩ units)
    (hd : d < 10 ^ 15) (hplace : -321 ≤ place) : IsCoarse units place := by
  unfold IsCoarse
  rcases gap_eq_one_or units with hgap | hgap
  · have hden : 4 * stepDen place < unitsPerOne := pow_lt_unitsPerOne _ (by omega)
    have hnum : unitsPerOne ≤ stepNum place :=
      Nat.le_mul_of_pos_right _ (Nat.pow_pos (by decide))
    rw [hgap, Nat.one_mul]
    omega
  · obtain ⟨hlower, -⟩ := near_of_roundsTo h
    have hunits : 2 ^ 52 * (gap units * stepDen place) ≤ units * stepDen place := by
      rw [← Nat.mul_assoc]
      exact Nat.mul_le_mul_right _ hgap
    have hdigits : d * stepNum place ≤ 10 ^ 15 * stepNum place :=
      Nat.mul_le_mul_right _ (Nat.le_of_lt hd)
    have hpos := Nat.mul_pos (gap_pos units) (stepDen_pos place)
    simp only [Nat.mul_assoc] at hlower
    omega

/-- The number lies within an eighth of a step of the decimal. -/
theorem RoundsTo.near {d units : Nat} {place : Int} (h : RoundsTo ⟨d, place⟩ units)
    (hcoarse : IsCoarse units place) :
    8 * (units * stepDen place) < 8 * (d * stepNum place) + stepNum place ∧
      8 * (d * stepNum place) < 8 * (units * stepDen place) + stepNum place := by
  obtain ⟨hlower, hupper⟩ := near_of_roundsTo h
  unfold IsCoarse at hcoarse
  simp only [Nat.mul_assoc] at hlower hupper
  omega

/-- On a coarse grid only one decimal rounds to a number. -/
theorem RoundsTo.digits_eq {d d' units : Nat} {place : Int} (h : RoundsTo ⟨d, place⟩ units)
    (h' : RoundsTo ⟨d', place⟩ units) (hcoarse : IsCoarse units place) : d = d' := by
  obtain ⟨hlower, hupper⟩ := h.near hcoarse
  obtain ⟨hlower', hupper'⟩ := h'.near hcoarse
  have hlt : d * stepNum place < (d' + 1) * stepNum place := by
    rw [Nat.add_mul]
    omega
  have hgt : d' * stepNum place < (d + 1) * stepNum place := by
    rw [Nat.add_mul]
    omega
  have := Nat.lt_of_mul_lt_mul_right hlt
  have := Nat.lt_of_mul_lt_mul_right hgt
  omega

end Decimal

open Decimal

/-! ## The shortest decimal -/

/-- The nearer neighbour on a grid is taken if it rounds to the number, and else another point that
does, or none. -/
theorem onGrid?_cases (units : Nat) (place : Int) :
    let nearer := roundDiv (units * stepDen place) (stepNum place)
    (RoundsTo ⟨nearer, place⟩ units ∧ onGrid? units place = some ⟨nearer, place⟩) ∨
      (¬ RoundsTo ⟨nearer, place⟩ units ∧
        ((∃ d, RoundsTo ⟨d, place⟩ units ∧ onGrid? units place = some ⟨d, place⟩) ∨
          onGrid? units place = none)) := by
  have hfits : ∀ d, roundsTo units (4 * d * stepNum place) (stepDen place) = true ↔
      RoundsTo ⟨d, place⟩ units := by
    intro d
    rw [Nat.mul_assoc]
    rfl
  have hnum : unitsPerOne * Nat.pow 10 place.toNat = stepNum place := rfl
  have hden : Nat.pow 10 (-place).toNat = stepDen place := rfl
  unfold onGrid?
  dsimp only
  rw [hnum, hden]
  generalize units * stepDen place / stepNum place = floor
  generalize roundDiv (units * stepDen place) (stepNum place) = nearer
  generalize (if nearer = floor then floor + 1 else floor) = farther
  by_cases hnearer : RoundsTo ⟨nearer, place⟩ units
  · exact .inl ⟨hnearer, if_pos ((hfits _).mpr hnearer)⟩
  · rw [if_neg (mt (hfits _).mp hnearer)]
    refine .inr ⟨hnearer, ?_⟩
    by_cases hfarther : RoundsTo ⟨farther, place⟩ units
    · exact .inl ⟨farther, hfarther, if_pos ((hfits _).mpr hfarther)⟩
    · exact .inr (if_neg (mt (hfits _).mp hfarther))

theorem roundsTo_of_onGrid? {units : Nat} {place : Int} {x : Decimal}
    (h : onGrid? units place = some x) : x.RoundsTo units := by
  rcases onGrid?_cases units place with ⟨hrounds, heq⟩ | ⟨-, ⟨d, hrounds, heq⟩ | heq⟩
  · exact Option.some.inj (heq.symm.trans h) ▸ hrounds
  · exact Option.some.inj (heq.symm.trans h) ▸ hrounds
  · rw [heq] at h
    cases h

theorem onGrid?_eq_some {d units : Nat} {place : Int} (h : RoundsTo ⟨d, place⟩ units)
    (hcoarse : IsCoarse units place) : onGrid? units place = some ⟨d, place⟩ := by
  obtain ⟨hlower, hupper⟩ := h.near hcoarse
  have hnearer : roundDiv (units * stepDen place) (stepNum place) = d := by
    apply roundDiv_eq
    · rw [Nat.mul_assoc]
      omega
    · rw [Nat.add_mul, Nat.mul_assoc]
      omega
  have hcases := onGrid?_cases units place
  rw [hnearer] at hcases
  rcases hcases with ⟨-, heq⟩ | ⟨hnot, -⟩
  · exact heq
  · exact absurd h hnot

theorem onGrid?_eq_none {units : Nat} {place : Int} (h : ∀ d, ¬ RoundsTo ⟨d, place⟩ units) :
    onGrid? units place = none := by
  rcases onGrid?_cases units place with ⟨hrounds, -⟩ | ⟨-, ⟨d, hrounds, -⟩ | heq⟩
  · exact absurd hrounds (h _)
  · exact absurd hrounds (h d)
  · exact heq

theorem findSome?_range {α : Type} {f : Nat → Option α} {n k : Nat} {a : α} (hk : k < n)
    (ha : f k = some a) (hbefore : ∀ j < k, f j = none) : (List.range n).findSome? f = some a := by
  obtain ⟨m, rfl⟩ : ∃ m, n = k + (m + 1) := ⟨n - k - 1, by omega⟩
  have hnone : (List.range k).findSome? f = none :=
    List.findSome?_eq_none_iff.mpr fun j hj => hbefore j (List.mem_range.mp hj)
  rw [List.range_add, List.findSome?_append, hnone, List.range_succ_eq_map, List.map_cons,
    List.findSome?_cons, Nat.add_zero, ha]
  rfl

/-- The grids are tried from the one of the first digit on; on the coarser ones of them no decimal
rounds to the number. -/
theorem shortest_eq {d units k : Nat} {place : Int} (h : RoundsTo ⟨d, place⟩ units)
    (hcoarse : IsCoarse units place) (hfirst : leadingPlace units = place + k) (hk : k < 17)
    (hlast : k = 0 ∨ ¬ 10 ∣ d) : shortest units = ⟨d, place⟩ := by
  have hfound : onGrid? units (leadingPlace units - k) = some ⟨d, place⟩ := by
    rw [hfirst, Int.add_sub_cancel]
    exact onGrid?_eq_some h hcoarse
  have hbefore : ∀ j < k, onGrid? units (leadingPlace units - j) = none := by
    intro j hj
    have hcoarser : place + k - j = place + (k - j : Nat) := by omega
    rw [hfirst, hcoarser]
    apply onGrid?_eq_none
    intro d' h'
    have heq := h.digits_eq (roundsTo_add.mp h') hcoarse
    refine hlast.resolve_left (by omega) (heq ▸ Dvd.dvd.mul_left ?_ d')
    exact dvd_pow_self 10 (by omega)
  unfold shortest
  dsimp only
  rw [findSome?_range (f := fun n : Nat => onGrid? units (leadingPlace units - n)) hk hfound hbefore]
  rfl

/-! ## The place of the first digit -/

/-- The place of the first digit of a number that is taken `10^w` times. -/
theorem leadingPlace_of_bounds {units n w : Nat} (hw : w = 400)
    (hle : 10 ^ n * unitsPerOne ≤ units * Nat.pow 10 w)
    (hlt : units * Nat.pow 10 w < 10 ^ (n + 1) * unitsPerOne) : leadingPlace units = n - w := by
  have hlength := Text.length_toDigits_eq ((Nat.le_div_iff_mul_le unitsPerOne_pos).mpr hle)
    ((Nat.div_lt_iff_lt_mul unitsPerOne_pos).mpr hlt)
  unfold leadingPlace
  rw [← hw, hlength]
  omega

theorem stepNum_mul_pow {place : Int} {n w : Nat} (h : (n : Int) = place + w) :
    stepNum place * Nat.pow 10 w = 10 ^ n * unitsPerOne * stepDen place := by
  have hexponents : place.toNat + w = n + (-place).toNat := by omega
  calc stepNum place * Nat.pow 10 w
      = unitsPerOne * 10 ^ (place.toNat + w) := by
        rw [stepNum, Nat.pow_add, Nat.mul_assoc, Nat.pow_eq]
    _ = 10 ^ n * unitsPerOne * stepDen place := by
        rw [hexponents, stepDen, Nat.pow_add]
        ring

/-- The first digit of a number stands `k` places before the ones of a grid if the number is at
least `10^k` steps long and less than ten times as long. -/
theorem leadingPlace_eq {units k : Nat} {place : Int} (hplace : -400 ≤ place)
    (hle : 10 ^ k * stepNum place ≤ units * stepDen place)
    (hlt : units * stepDen place < 10 ^ (k + 1) * stepNum place) :
    leadingPlace units = place + k := by
  obtain ⟨w, hw⟩ : ∃ w : Nat, w = 400 := ⟨400, rfl⟩
  obtain ⟨n, hn⟩ : ∃ n : Nat, (n : Int) = place + w := ⟨(place + w).toNat, by omega⟩
  have hfirst : ((n + k : Nat) : Int) - w = place + k := by omega
  have hleft : ∀ j, 10 ^ (n + j) * unitsPerOne * stepDen place =
      10 ^ j * stepNum place * Nat.pow 10 w := by
    intro j
    rw [Nat.mul_assoc (10 ^ j), stepNum_mul_pow hn, Nat.pow_add]
    ring
  have hlow : 10 ^ (n + k) * unitsPerOne * stepDen place ≤
      units * Nat.pow 10 w * stepDen place := by
    rw [hleft, Nat.mul_right_comm units]
    exact Nat.mul_le_mul_right _ hle
  have hhigh : units * Nat.pow 10 w * stepDen place <
      10 ^ (n + (k + 1)) * unitsPerOne * stepDen place := by
    rw [hleft, Nat.mul_right_comm units]
    exact Nat.mul_lt_mul_of_pos_right hlt (Nat.pow_pos (by decide))
  rw [leadingPlace_of_bounds hw (Nat.le_of_mul_le_mul_right hlow (stepDen_pos place))
    (Nat.lt_of_mul_lt_mul_right hhigh), hfirst]

/-! ## Fifteen digits are shortest -/

/-- A decimal with at most fifteen digits is the shortest one of its number, but for a power of ten
whose number is smaller: that one is written as ten steps of the grid below. -/
theorem shortest_of_roundsTo {d units : Nat} {place : Int} (h : RoundsTo ⟨d, place⟩ units)
    (hd : d < 10 ^ 15) (hlast : ¬ 10 ∣ d) (hplace : -320 ≤ place) :
    shortest units = ⟨d, place⟩ ∨ d = 1 ∧ shortest units = ⟨10, place - 1⟩ := by
  have hcoarse := h.isCoarse hd (by omega)
  obtain ⟨hlower, hupper⟩ := h.near hcoarse
  have hpos := Text.pos_of_not_dvd hlast
  obtain ⟨k, hk⟩ := Text.exists_length_toDigits d
  obtain ⟨hdle, hdlt⟩ := Text.bounds_of_length_toDigits hpos hk
  rcases Nat.lt_or_ge (units * stepDen place) (10 ^ k * stepNum place) with hless | hfirst
  · right
    have hone : d < 10 ^ k + 1 := by
      apply Nat.lt_of_mul_lt_mul_right (a := stepNum place)
      rw [Nat.add_mul]
      omega
    have hpower : d = 10 ^ k := by omega
    have hzero : k = 0 := by
      by_contra hk
      exact hlast (hpower ▸ dvd_pow_self 10 hk)
    subst hzero
    rw [Nat.pow_zero] at hpower
    subst hpower
    refine ⟨rfl, ?_⟩
    -- The first digit of the number stands on the grid below, and there the decimal is ten steps.
    obtain ⟨finer, rfl⟩ : ∃ finer, place = finer + (1 : Nat) := ⟨place - 1, by omega⟩
    have hfiner : RoundsTo ⟨10, finer⟩ units := by
      have hten := roundsTo_add.mp h
      rwa [Nat.one_mul, Nat.pow_one] at hten
    have hcoarse' := hfiner.isCoarse (by decide) (by omega)
    obtain ⟨-, hupper'⟩ := hfiner.near hcoarse'
    have hlt : units * stepDen finer < 10 ^ (0 + 1) * stepNum finer := by
      apply Nat.lt_of_mul_lt_mul_right (a := stepDen (finer + (1 : Nat)))
      rw [Nat.zero_add, ← step_add, Nat.mul_right_comm]
      rw [Nat.pow_zero, Nat.one_mul] at hless
      exact Nat.mul_lt_mul_of_pos_right hless (stepDen_pos finer)
    have hle : 10 ^ 0 * stepNum finer ≤ units * stepDen finer := by
      rw [Nat.pow_zero, Nat.one_mul]
      omega
    have hplace' := leadingPlace_eq (k := 0) (by omega) hle hlt
    have hshortest := shortest_eq hfiner hcoarse' hplace' (by decide) (.inl rfl)
    rw [hshortest]
    congr 1
    omega
  · left
    have hlt : units * stepDen place < 10 ^ (k + 1) * stepNum place := by
      have hle : (d + 1) * stepNum place ≤ 10 ^ (k + 1) * stepNum place :=
        Nat.mul_le_mul_right _ hdlt
      rw [Nat.add_mul] at hle
      omega
    have hshort : k < 17 := by
      by_contra hlong
      have : 10 ^ 17 ≤ 10 ^ k := Nat.pow_le_pow_right (by decide) (by omega)
      omega
    exact shortest_eq h hcoarse (leadingPlace_eq (by omega) hfirst hlt) hshort (.inr hlast)

/-! ## Writing -/

/-- Digits in a layout, the first one at `place`. -/
def Layout.digits (layout : Layout) (negative : Bool) (ds : List Char) (place : Int) : List Char :=
  (if negative then ['-'] else []) ++
    if layout.least ≤ place && place < layout.limit then positional ds place
    else scientific layout.exponentDigits ds place

/-- The place of the first digit of `d * 10^exponent`. -/
def firstPlace (d : Nat) (exponent : Int) : Int := (Nat.toDigits 10 d).length - 1 + exponent

theorem rdropWhile_toDigits {d : Nat} (h : ¬ 10 ∣ d) :
    (Nat.toDigits 10 d).rdropWhile (· == '0') = Nat.toDigits 10 d := by
  obtain ⟨front, c, hfront, hc⟩ := Text.exists_concat_toDigits h
  rw [hfront, List.rdropWhile_concat_neg _ _ _ (by simpa using hc)]

theorem write_of_shortest {d units : Nat} {exponent : Int} (h : shortest units = ⟨d, exponent⟩)
    (hunits : units ≠ 0) (layout : Layout) (negative : Bool) :
    layout.write negative units =
      layout.digits negative ((Nat.toDigits 10 d).rdropWhile (· == '0')) (firstPlace d exponent) := by
  unfold Layout.write
  dsimp only
  rw [if_neg hunits, h]
  rfl

/-- A number is written with the digits of any decimal of at most fifteen digits that rounds to
it. -/
theorem write_of_roundsTo {d units : Nat} {exponent : Int} (h : RoundsTo ⟨d, exponent⟩ units)
    (hd : d < 10 ^ 15) (hlast : ¬ 10 ∣ d) (hexponent : -320 ≤ exponent) (layout : Layout)
    (negative : Bool) :
    layout.write negative units =
      layout.digits negative (Nat.toDigits 10 d) (firstPlace d exponent) := by
  have hunits : units ≠ 0 := by
    rintro rfl
    obtain ⟨-, hupper⟩ := h.near (h.isCoarse hd (by omega))
    have hpos := Text.pos_of_not_dvd hlast
    have hstep := Nat.le_mul_of_pos_left (stepNum exponent) hpos
    omega
  rcases shortest_of_roundsTo h hd hlast hexponent with hshortest | ⟨rfl, hshortest⟩
  · rw [write_of_shortest hshortest hunits, rdropWhile_toDigits hlast]
  · have hplace : firstPlace 10 (exponent - 1) = firstPlace 1 exponent := by
      have hten : Nat.toDigits 10 10 = ['1', '0'] := by decide
      have hone : Nat.toDigits 10 1 = ['1'] := by decide
      rw [firstPlace, firstPlace, hten, hone]
      simp only [List.length_cons, List.length_nil]
      omega
    have hdigits : (Nat.toDigits 10 10).rdropWhile (· == '0') = Nat.toDigits 10 1 := by decide
    rw [write_of_shortest hshortest hunits, hplace, hdigits]

/-! ## Reading -/

theorem ofDecimal_eq (negative : Bool) (d : Nat) (exponent : Int) :
    ofDecimal negative d exponent =
      if d = 0 then finite negative 0
      else if 400 < (Nat.toDigits 10 d).length + exponent then infinite negative
      else if (Nat.toDigits 10 d).length + exponent < -400 then finite negative 0
      else ofUnits negative (units ⟨d, exponent⟩) := by
  have hunits : (if 0 ≤ exponent then
        ofUnits negative (roundUnits (d * Nat.pow 10 exponent.toNat * unitsPerOne) 1)
      else ofUnits negative (roundUnits (d * unitsPerOne) (Nat.pow 10 (-exponent).toNat))) =
      ofUnits negative (units ⟨d, exponent⟩) := by
    unfold units stepNum stepDen
    dsimp only
    split
    · have hzero : (-exponent).toNat = 0 := by omega
      rw [hzero, Nat.pow_zero, Nat.pow_eq, Nat.mul_assoc, Nat.mul_comm unitsPerOne]
    · have hzero : exponent.toNat = 0 := by omega
      rw [hzero, Nat.pow_zero, Nat.mul_one, Nat.pow_eq]
  unfold ofDecimal
  dsimp only
  rw [hunits]

/-- Zeros at the end of the digits count like a larger exponent. -/
theorem ofDecimal_mul_pow (negative : Bool) (d k : Nat) (exponent : Int) :
    ofDecimal negative (d * 10 ^ k) exponent = ofDecimal negative d (exponent + k) := by
  rcases Nat.eq_zero_or_pos d with rfl | hd
  · rw [Nat.zero_mul, ofDecimal_eq, ofDecimal_eq, if_pos rfl, if_pos rfl]
  · have hlength : ((Nat.toDigits 10 (d * 10 ^ k)).length : Int) + exponent =
        (Nat.toDigits 10 d).length + (exponent + k) := by
      rw [Text.toDigits_mul_pow hd, List.length_append, List.length_replicate]
      omega
    have hne : d * 10 ^ k ≠ 0 := (Nat.mul_pos hd (Nat.pow_pos (by decide))).ne'
    rw [ofDecimal_eq, ofDecimal_eq, hlength, units_add, if_neg hne, if_neg hd.ne']

theorem pow_lt_unitsLimit : ∀ n ≤ 300, unitsPerOne * 10 ^ n < unitsLimit := by decide +kernel

/-- The number that a decimal with at most 300 places before the point is rounded to is finite. -/
theorem units_lt {d k : Nat} {exponent : Int} (hd : d < 10 ^ 15) (hexponent : -321 ≤ exponent)
    (hk : d < 10 ^ k) (hrange : k + exponent ≤ 300) : units ⟨d, exponent⟩ < unitsLimit := by
  have hrounds := roundsTo_units ⟨d, exponent⟩
  obtain ⟨hlower, -⟩ := hrounds.near (hrounds.isCoarse hd hexponent)
  obtain ⟨n, hn⟩ : ∃ n, n = (k + exponent).toNat := ⟨_, rfl⟩
  refine Nat.lt_trans ?_ (pow_lt_unitsLimit n (by omega))
  apply Nat.lt_of_mul_lt_mul_right (a := stepDen exponent)
  have hdigits : (d + 1) * stepNum exponent ≤ 10 ^ k * stepNum exponent :=
    Nat.mul_le_mul_right _ hk
  rw [Nat.add_mul] at hdigits
  calc units ⟨d, exponent⟩ * stepDen exponent
      < 10 ^ k * stepNum exponent := by omega
    _ = unitsPerOne * 10 ^ (k + exponent.toNat) := by
        rw [stepNum, Nat.pow_add]
        ring
    _ ≤ unitsPerOne * 10 ^ (n + (-exponent).toNat) :=
        Nat.mul_le_mul_left _ (Nat.pow_le_pow_right (by decide) (by omega))
    _ = unitsPerOne * 10 ^ n * stepDen exponent := by rw [stepDen, Nat.pow_add, Nat.mul_assoc]

/-- A decimal of at most fifteen digits that is neither too large nor too small is read as a finite
number, and the number is written with the digits of the decimal. -/
theorem exists_write_ofDecimal {d : Nat} {exponent : Int} (hd : d < 10 ^ 15) (hlast : ¬ 10 ∣ d)
    (hrange : -300 ≤ firstPlace d exponent ∧ firstPlace d exponent < 300) (negative : Bool) :
    ∃ units, ofDecimal negative d exponent = finite negative units ∧
      ∀ layout : Layout, layout.write negative units =
        layout.digits negative (Nat.toDigits 10 d) (firstPlace d exponent) := by
  have hpos := Text.pos_of_not_dvd hlast
  obtain ⟨k, hk⟩ := Text.exists_length_toDigits d
  have hshort : k + 1 ≤ 15 := by
    rw [← hk, Nat.length_toDigits_le_iff (by decide) (by decide)]
    exact hd
  unfold firstPlace at hrange
  rw [hk] at hrange
  have hrounds := roundsTo_units ⟨d, exponent⟩
  refine ⟨units ⟨d, exponent⟩, ?_, fun layout =>
    write_of_roundsTo hrounds hd hlast (by omega) layout negative⟩
  have hlimit : units ⟨d, exponent⟩ < unitsLimit :=
    units_lt hd (by omega) (Text.bounds_of_length_toDigits hpos hk).2 (by omega)
  rw [ofDecimal_eq, if_neg hpos.ne', hk, if_neg (by omega), if_neg (by omega), ofUnits,
    if_pos hlimit]

end NoteQuery.Binary64
