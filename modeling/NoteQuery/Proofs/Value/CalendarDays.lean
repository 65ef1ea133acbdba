import Mathlib.Tactic.SplitIfs
import NoteQuery.Proofs.Note.ScalarTexts

/-!
# Days of the calendar

Configuration files know days of the calendar, and notes hold the texts of dates. A day has a
well-formed literal, and it is the same date as its ISO text in a note.

* `Day.isWellFormed_toLiteral`, `Day.read_iso`: the literal of a day and how it is read.
-/

namespace NoteQuery

/-- A padded number of at most `width` digits is a run of `width` digits that writes the number. -/
theorem zeroPadded_digits {width n : Nat} (hwidth : 0 < width) (h : n < Nat.pow 10 width) :
    (zeroPadded width n).toList.length = width ∧
      (∀ c ∈ (zeroPadded width n).toList, c.isDigit) ∧
      Text.natOfDigits (zeroPadded width n).toList = n := by
  have hlength : (Nat.toDigits 10 n).length ≤ width :=
    (Nat.length_toDigits_le_iff (by decide) hwidth).mpr h
  have hchars : (zeroPadded width n).toList =
      List.replicate (width - (Nat.toDigits 10 n).length) '0' ++ Nat.toDigits 10 n := by
    rw [zeroPadded, Nat.toString_eq_ofList_toDigits, String.toList_append, String.toList_ofList,
      String.toList_ofList, String.length_ofList]
  rw [hchars]
  refine ⟨?_, fun c hc => ?_, ?_⟩
  · rw [List.length_append, List.length_replicate]
    omega
  · rcases List.mem_append.mp hc with hc | hc
    · rw [(List.mem_replicate.mp hc).2]
      decide
    · exact Scalar.isDigit_of_mem_toDigits hc
  · rw [Text.natOfDigits, Nat.ofDigitChars_append, Nat.ofDigitChars_replicate_zero, Nat.mul_zero]
    exact Nat.ofDigitChars_ten_toDigits

namespace Day

theorem daysInMonth_le (year month : Nat) : daysInMonth year month ≤ 31 := by
  unfold daysInMonth
  split_ifs <;> decide

theorem isWellFormed_toLiteral {d : Day} (h : d.isValid) : d.toLiteral.IsWellFormed := by
  have hbounds : d.year ≤ 9999 ∧ d.month ≤ 12 ∧ d.day ≤ 31 := by
    have hdays := daysInMonth_le d.year d.month
    simp only [isValid, Bool.and_eq_true, decide_eq_true_eq] at h
    omega
  have hyear : d.year < Nat.pow 10 4 := Nat.lt_of_le_of_lt hbounds.1 (by decide)
  have hmonth : d.month < Nat.pow 10 2 := Nat.lt_of_le_of_lt hbounds.2.1 (by decide)
  have hday : d.day < Nat.pow 10 2 := Nat.lt_of_le_of_lt hbounds.2.2 (by decide)
  obtain ⟨hyears, hydigit, hyear⟩ := zeroPadded_digits (by decide) hyear
  obtain ⟨hmonths, hmdigit, hmonth⟩ := zeroPadded_digits (by decide) hmonth
  obtain ⟨hdays, hddigit, hday⟩ := zeroPadded_digits (by decide) hday
  refine ⟨(zeroPadded 4 d.year).toList, (zeroPadded 2 d.month).toList, (zeroPadded 2 d.day).toList,
    hyears, hmonths, hdays, ?_, ?_, hyear.symm, hmonth.symm, hday.symm⟩
  · intro c hc
    rcases List.mem_append.mp hc with hc | hc
    · rcases List.mem_append.mp hc with hc | hc
      · exact hydigit c hc
      · exact hmdigit c hc
    · exact hddigit c hc
  · have hhyphen : "-".toList = ['-'] := rfl
    show d.iso.toList = _
    rw [iso, String.toList_append, String.toList_append, String.toList_append,
      String.toList_append, hhyphen]
    simp only [List.append_assoc, List.cons_append, List.nil_append]

/-- The ISO text of a day is read as the date that the day is. -/
theorem read_iso {d : Day} (h : d.isValid) : Scalar.read d.iso.toList = .date d.toLiteral := by
  have hraw : d.toLiteral.raw = d.iso := rfl
  rw [← hraw]
  exact Scalar.read_raw (isWellFormed_toLiteral h)

end Day

end NoteQuery
