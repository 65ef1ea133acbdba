import NoteQuery.Note.Scalar
import NoteQuery.Proofs.Text.Order
import NoteQuery.Value.Order

/-!
# Well-formed date literals

A date literal is well-formed if its text is four digits, two and two with hyphens between them and
its numbers are the ones that the digits write. These are the dates that reading a scalar yields.
Their order in the calendar is the order of their texts.
-/

namespace NoteQuery

/-- The text is `YYYY-MM-DD`, and year, month and day are the numbers in it. -/
def DateLiteral.IsWellFormed (d : DateLiteral) : Prop :=
  ∃ ys ms ds : List Char, ys.length = 4 ∧ ms.length = 2 ∧ ds.length = 2 ∧
    (∀ c ∈ ys ++ ms ++ ds, c.isDigit) ∧ d.raw.toList = ys ++ '-' :: (ms ++ '-' :: ds) ∧
    d.year = Text.natOfDigits ys ∧ d.month = Text.natOfDigits ms ∧ d.day = Text.natOfDigits ds

theorem DateLiteral.IsWellFormed.date?_raw {d : DateLiteral} (h : d.IsWellFormed) :
    Scalar.date? d.raw.toList = some d := by
  obtain ⟨ys, ms, ds, hys, hms, hds, hdigit, hraw, hyear, hmonth, hday⟩ := h
  match ys, ms, ds, hys, hms, hds with
  | [y1, y2, y3, y4], [m1, m2], [d1, d2], _, _, _ =>
    have hall : [y1, y2, y3, y4, m1, m2, d1, d2].all Char.isDigit = true :=
      List.all_eq_true.mpr hdigit
    have hself : String.ofList d.raw.toList = d.raw := String.ofList_toList
    rw [hraw] at hself ⊢
    simp only [List.cons_append, List.nil_append] at hself ⊢
    simp only [Scalar.date?, hall, decide_true, Bool.and_self, if_true, hself, ← hyear, ← hmonth,
      ← hday]

theorem isWellFormed_of_date? {cs : List Char} {d : DateLiteral} (h : Scalar.date? cs = some d) :
    d.IsWellFormed ∧ d.raw.toList = cs := by
  unfold Scalar.date? at h
  split at h
  · rename_i y1 y2 y3 y4 h1 m1 m2 h2 d1 d2
    split at h
    · rename_i hc
      simp only [Bool.and_eq_true, decide_eq_true_eq] at hc
      obtain ⟨⟨rfl, rfl⟩, hall⟩ := hc
      cases h
      refine ⟨⟨[y1, y2, y3, y4], [m1, m2], [d1, d2], rfl, rfl, rfl, ?_, ?_, rfl, rfl, rfl⟩, ?_⟩
      · exact List.all_eq_true.mp hall
      · exact String.toList_ofList
      · exact String.toList_ofList
    · cases h
  · cases h

theorem DateLiteral.IsWellFormed.orderDates_eq {d e : DateLiteral} (hd : d.IsWellFormed)
    (he : e.IsWellFormed) : Value.orderDates d e = compare d.raw e.raw := by
  obtain ⟨ys, ms, ds, hys, hms, hds, hdigit, hraw, hyear, hmonth, hday⟩ := hd
  obtain ⟨ys', ms', ds', hys', hms', hds', hdigit', hraw', hyear', hmonth', hday'⟩ := he
  simp only [List.mem_append, or_imp, forall_and] at hdigit hdigit'
  have hyears := Text.compareLex_digits hdigit.1.1 hdigit'.1.1 (hys.trans hys'.symm)
  have hmonths := Text.compareLex_digits hdigit.1.2 hdigit'.1.2 (hms.trans hms'.symm)
  have hdays := Text.compareLex_digits hdigit.2 hdigit'.2 (hds.trans hds'.symm)
  have hhyphen : compare '-' '-' = Ordering.eq := by decide
  rw [← String.ofList_toList (s := d.raw), ← String.ofList_toList (s := e.raw), hraw, hraw',
    Text.compare_ofList, Text.compareLex_append (hys.trans hys'.symm), List.compareLex_cons_cons,
    Text.compareLex_append (hms.trans hms'.symm), List.compareLex_cons_cons, hhyphen, hyears,
    hmonths, hdays, Value.orderDates, hyear, hyear', hmonth, hmonth', hday, hday']
  rfl

end NoteQuery
