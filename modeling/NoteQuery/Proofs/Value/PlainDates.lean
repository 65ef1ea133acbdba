import Mathlib.Logic.Basic
import NoteQuery.Condition.Basic
import NoteQuery.Proofs.Note.NoteValues
import NoteQuery.Proofs.Note.ShownValues
import NoteQuery.Proofs.Value.CalendarDays
import NoteQuery.Proofs.Value.Comparability

/-!
# Dates and their literals

A row shows every date by its literal (`Value.plain`). No relation between values and no text of a
value can tell the two apart, at any depth of lists, and neither can a condition whose target holds
dates. Only for the order do the dates have to be well-formed: the order in the calendar is then the
order of the literals.

* `order_plain`, `agrees_plain`, `plainChars_plain`, `displayChars_plain`: relations and texts.
* `isWritable_plain`, `compare?_plain`: values without a text or an order.
* `Operator.holds_plain`, `Operator.answers_plain`, `literalHolds_plain`: targets of conditions.
* `Value.plain_indiscernible`: all of it, with the dates that are read and the days of the calendar.
-/

namespace NoteQuery

namespace Value

mutual

/-- Every date in the value, at any depth of lists, is well-formed. -/
def DatesWellFormed : Value → Prop
  | date d => d.IsWellFormed
  | list items => ItemDatesWellFormed items
  | _ => True

def ItemDatesWellFormed : List Value → Prop
  | [] => True
  | v :: vs => v.DatesWellFormed ∧ ItemDatesWellFormed vs

end

theorem itemDatesWellFormed_of_forall {vs : List Value} (h : ∀ v ∈ vs, v.DatesWellFormed) :
    ItemDatesWellFormed vs := by
  induction vs with
  | nil => trivial
  | cons v vs ih =>
    exact ⟨h v List.mem_cons_self, ih fun w hw => h w (List.mem_cons_of_mem _ hw)⟩

theorem IsScalar.datesWellFormed {v : Value} (h : v.IsScalar) : v.DatesWellFormed := by
  cases h with
  | null => trivial
  | textual h =>
    cases h with
    | date hd => exact hd
    | _ => trivial
  | number h => cases h <;> trivial

theorem IsFlat.datesWellFormed {v : Value} (h : v.IsFlat) : v.DatesWellFormed := by
  cases h with
  | scalar h => exact h.datesWellFormed
  | list h => exact itemDatesWellFormed_of_forall fun v hv => (h v hv).datesWellFormed

/-! ## What stays -/

mutual

theorem plain_plain (v : Value) : v.plain.plain = v.plain := by
  cases v with
  | list vs => exact congrArg list (plainAll_plainAll vs)
  | _ => rfl

theorem plainAll_plainAll (vs : List Value) : plainAll (plainAll vs) = plainAll vs := by
  match vs with
  | [] => rfl
  | v :: vs => exact congrArg₂ List.cons (plain_plain v) (plainAll_plainAll vs)

end

mutual

theorem datesWellFormed_plain (v : Value) : v.plain.DatesWellFormed := by
  cases v with
  | list vs => exact itemDatesWellFormed_plainAll vs
  | _ => trivial

theorem itemDatesWellFormed_plainAll (vs : List Value) : ItemDatesWellFormed (plainAll vs) := by
  match vs with
  | [] => trivial
  | v :: vs => exact ⟨datesWellFormed_plain v, itemDatesWellFormed_plainAll vs⟩

end

theorem isNumber_plain (v : Value) : v.plain.isNumber = v.isNumber := by cases v <;> rfl

theorem plain_of_isNumber {v : Value} (h : v.isNumber) : v.plain = v := by
  cases v <;> first | rfl | cases h

theorem plain_eq_null_iff {v : Value} : v.plain = .null ↔ v = .null := by
  cases v <;> simp [plain]

theorem isList_plain_iff {v : Value} : v.plain.IsList ↔ v.IsList := by
  cases v <;> simp [plain, IsList]

theorem plain_ne_date (v : Value) (d : DateLiteral) : v.plain ≠ .date d := by
  cases v <;> simp [plain]

/-! ## Texts -/

mutual

theorem plainChars_plain (v : Value) : v.plain.plainChars = v.plainChars := by
  cases v with
  | list vs => exact congrArg commaJoin (plainItems_plainAll vs)
  | _ => rfl

theorem plainItems_plainAll (vs : List Value) : plainItems (plainAll vs) = plainItems vs := by
  match vs with
  | [] => rfl
  | v :: vs => exact congrArg₂ List.cons (plainChars_plain v) (plainItems_plainAll vs)

end

mutual

theorem displayChars_plain (v : Value) : v.plain.displayChars = v.displayChars := by
  cases v with
  | list vs => exact congrArg commaJoin (displayItems_plainAll vs)
  | _ => rfl

theorem displayItems_plainAll (vs : List Value) :
    displayItems (plainAll vs) = displayItems vs := by
  match vs with
  | [] => rfl
  | v :: vs => exact congrArg₂ List.cons (displayChars_plain v) (displayItems_plainAll vs)

end

theorem plainText_plain (v : Value) : v.plain.plainText = v.plainText :=
  congrArg String.ofList (plainChars_plain v)

theorem display_plain (v : Value) : v.plain.display = v.display :=
  congrArg String.ofList (displayChars_plain v)

mutual

theorem isWritable_plain (v : Value) : v.plain.isWritable = v.isWritable := by
  cases v with
  | list vs => exact areWritable_plainAll vs
  | _ => rfl

theorem areWritable_plainAll (vs : List Value) : areWritable (plainAll vs) = areWritable vs := by
  match vs with
  | [] => rfl
  | v :: vs => exact congrArg₂ and (isWritable_plain v) (areWritable_plainAll vs)

end

/-! ## Equality -/

mutual

theorem agrees_plain (v w : Value) : v.plain.agrees w.plain = v.agrees w := by
  cases v with
  | list vs =>
    cases w with
    | list ws => exact agreesAll_plainAll vs ws
    | _ => rfl
  | _ => cases w <;> rfl

theorem agreesAll_plainAll (vs ws : List Value) :
    agreesAll (plainAll vs) (plainAll ws) = agreesAll vs ws := by
  match vs, ws with
  | [], [] => rfl
  | [], _ :: _ => rfl
  | _ :: _, [] => rfl
  | v :: vs, w :: ws => exact congrArg₂ and (agrees_plain v w) (agreesAll_plainAll vs ws)

end

theorem agrees_plain_right (v w : Value) : v.agrees w.plain = v.agrees w := by
  rw [← agrees_plain v w.plain, plain_plain, agrees_plain]

/-! ## Order -/

/-- Values that are not both lists. Two dates are ordered by their literals, and whatever else is no
pair of numbers is ordered by plain texts on either side. -/
theorem order_plain_of_not_lists {v w : Value} (h : ¬ (v.IsList ∧ w.IsList))
    (hv : v.DatesWellFormed) (hw : w.DatesWellFormed) : v.plain.order w.plain = v.order w := by
  by_cases hnv : v = .null
  · by_cases hnw : w = .null
    · subst hnv hnw
      rfl
    · rw [hnv, order_null_left hnw]
      exact order_null_left (mt plain_eq_null_iff.mp hnw)
  by_cases hnw : w = .null
  · rw [hnw, order_null_right hnv]
    exact order_null_right (mt plain_eq_null_iff.mp hnv)
  cases hnumbers : v.isNumber && w.isNumber with
  | true =>
    rw [Bool.and_eq_true] at hnumbers
    rw [plain_of_isNumber hnumbers.1, plain_of_isNumber hnumbers.2]
  | false =>
    have hdates : v.order w = byText v w := order_eq_byText_of hnv hnw hnumbers h <| by
      rintro d e rfl rfl
      exact ⟨hv, hw⟩
    have hplain : v.plain.order w.plain = byText v.plain w.plain := by
      refine order_eq_byText_of (mt plain_eq_null_iff.mp hnv) (mt plain_eq_null_iff.mp hnw) ?_ ?_ ?_
      · rw [isNumber_plain, isNumber_plain, hnumbers]
      · rwa [isList_plain_iff, isList_plain_iff]
      · exact fun d e hd => absurd hd (plain_ne_date v d)
    rw [hdates, hplain, byText, compareOn, compareOn, plainText_plain, plainText_plain]

mutual

theorem order_plain (v w : Value) (hv : v.DatesWellFormed) (hw : w.DatesWellFormed) :
    v.plain.order w.plain = v.order w := by
  cases v with
  | list vs =>
    cases w with
    | list ws => exact orderItems_plainAll vs ws hv hw
    | _ => exact order_plain_of_not_lists (by rintro ⟨-, ws, hws⟩; cases hws) hv hw
  | _ => exact order_plain_of_not_lists (by rintro ⟨⟨vs, hvs⟩, -⟩; cases hvs) hv hw

theorem orderItems_plainAll (vs ws : List Value) (hvs : ItemDatesWellFormed vs)
    (hws : ItemDatesWellFormed ws) : orderItems (plainAll vs) (plainAll ws) = orderItems vs ws := by
  match vs, ws with
  | [], [] => rfl
  | [], _ :: _ => rfl
  | _ :: _, [] => rfl
  | v :: vs, w :: ws =>
    exact congrArg₂ Ordering.then (order_plain v w hvs.1 hws.1)
      (orderItems_plainAll vs ws hvs.2 hws.2)

end

theorem order_plain_right {v w : Value} (hv : v.DatesWellFormed) (hw : w.DatesWellFormed) :
    v.order w.plain = v.order w := by
  rw [← order_plain v w.plain hv (datesWellFormed_plain w), plain_plain, order_plain v w hv hw]

/-! ## Values that can be compared -/

theorem isComparable_plain_of_not_lists {v w : Value} (h : ¬ (v.IsList ∧ w.IsList)) :
    v.plain.isComparable w.plain = v.isComparable w := by
  by_cases hnv : v = .null
  · subst hnv
    rfl
  by_cases hnw : w = .null
  · subst hnw
    exact (isComparable_null_right v.plain).trans (isComparable_null_right v).symm
  rw [isComparable_of_not_lists hnv hnw h,
    isComparable_of_not_lists (mt plain_eq_null_iff.mp hnv) (mt plain_eq_null_iff.mp hnw)
      (by rwa [isList_plain_iff, isList_plain_iff]),
    isNumber_plain, isNumber_plain, isWritable_plain, isWritable_plain]

mutual

theorem isComparable_plain (v w : Value) (hv : v.DatesWellFormed) (hw : w.DatesWellFormed) :
    v.plain.isComparable w.plain = v.isComparable w := by
  cases v with
  | list vs =>
    cases w with
    | list ws => exact areComparable_plainAll vs ws hv hw
    | _ => exact isComparable_plain_of_not_lists (by rintro ⟨-, ws, hws⟩; cases hws)
  | _ => exact isComparable_plain_of_not_lists (by rintro ⟨⟨vs, hvs⟩, -⟩; cases hvs)

theorem areComparable_plainAll (vs ws : List Value) (hvs : ItemDatesWellFormed vs)
    (hws : ItemDatesWellFormed ws) :
    areComparable (plainAll vs) (plainAll ws) = areComparable vs ws := by
  match vs, ws with
  | [], [] | [], _ :: _ | _ :: _, [] => rfl
  | v :: vs, w :: ws =>
    rw [Bool.eq_iff_iff, plainAll, plainAll, areComparable_cons, areComparable_cons,
      isComparable_plain v w hvs.1 hws.1, order_plain v w hvs.1 hws.1,
      areComparable_plainAll vs ws hvs.2 hws.2]

end

theorem isComparable_plain_right {v w : Value} (hv : v.DatesWellFormed) (hw : w.DatesWellFormed) :
    v.isComparable w.plain = v.isComparable w := by
  rw [← isComparable_plain v w.plain hv (datesWellFormed_plain w), plain_plain,
    isComparable_plain v w hv hw]

theorem compare?_plain {v w : Value} (hv : v.DatesWellFormed) (hw : w.DatesWellFormed) :
    v.plain.compare? w.plain = v.compare? w := by
  rw [compare?, compare?, isComparable_plain v w hv hw, order_plain v w hv hw]

end Value

/-! ## Targets of conditions -/

namespace Operator

open Value

theorem holdsContains_plain (value target : Value) :
    holdsContains value target.plain = holdsContains value target := by
  cases value with
  | text s =>
    have hpiece : ∀ {t : Value}, t ≠ .null → holdsContains (.text s) t =
        Text.hasPiece (Text.lower t.plainChars) (Text.lower s.toList) := by
      intro t ht
      cases t <;> first | exact absurd rfl ht | rfl
    by_cases hnull : target = .null
    · rw [hnull]
      rfl
    · rw [hpiece hnull, hpiece (mt plain_eq_null_iff.mp hnull), plainChars_plain]
  | list items =>
    show (items.any fun v => v.agrees target.plain) = items.any fun v => v.agrees target
    simp only [agrees_plain_right]
  | _ => rfl

theorem any_agrees_plainAll (value : Value) (items : List Value) :
    ((plainAll items).any fun w => value.agrees w) = items.any fun w => value.agrees w := by
  induction items with
  | nil => rfl
  | cons w ws ih => rw [plainAll, List.any_cons, List.any_cons, agrees_plain_right, ih]

theorem holdsWithin_plain (value target : Value) :
    holdsWithin value target.plain = holdsWithin value target := by
  cases target with
  | list items => exact any_agrees_plainAll value items
  | _ => rfl

/-- An operator cannot tell the dates of its target from their literals. -/
theorem holds_plain (op : Operator) {value target : Value} (hvalue : value.DatesWellFormed)
    (htarget : target.DatesWellFormed) : op.holds value target.plain = op.holds value target := by
  cases op with
  | eq | ne => simp only [holds, agrees_plain_right]
  | gt | gte | lt | lte => simp only [holds, order_plain_right hvalue htarget]
  | contains | notContains => simp only [holds, holdsContains_plain]
  | within => exact holdsWithin_plain value target
  | «exists» | notExists => rfl

theorem answers_plain (op : Operator) {value target : Value} (hvalue : value.DatesWellFormed)
    (htarget : target.DatesWellFormed) :
    op.answers value target.plain = op.answers value target := by
  cases op with
  | gt | gte | lt | lte => exact isComparable_plain_right hvalue htarget
  | contains | notContains =>
    cases value with
    | text s => exact isWritable_plain target
    | _ => rfl
  | _ => rfl

end Operator

/-- A literal cannot tell the dates that it asks for from their literals. -/
theorem literalHolds_plain (value expected : Value) :
    literalHolds value expected.plain = literalHolds value expected := by
  cases expected with
  | date d => exact Value.agrees_plain_right value (.date d)
  | list items => exact Value.agrees_plain_right value (.list items)
  | _ => rfl

/-- Dates cannot be told from their literals. What is read as a date is well-formed, so that all
fields of notes have well-formed dates only; and so is a day of the calendar, which is brought to the
very date that is read from its ISO text. The dates of a value, at any depth of lists, are replaced
by their literals, and no other one is left. Values whose dates are well-formed then have the same
order, equality and texts, if they have any, and conditions come to the same for the same targets. -/
theorem Value.plain_indiscernible :
    (∀ (cs : List Char) (d : DateLiteral), Scalar.read cs = .date d → d.IsWellFormed) ∧
    (∀ content path field, ((Document.record content path).get field).DatesWellFormed) ∧
    (∀ d : Day, d.isValid → d.toLiteral.IsWellFormed ∧
      (Value.stamp (.day d)).normalize = Scalar.read d.iso.toList ∧
      ∀ t offset, (Value.stamp (.moment d t offset)).normalize = Scalar.read d.iso.toList) ∧
    (∀ v : Value, v.ShownAs v.plain ∧ ∀ d, StandsIn (.date d) v.plain → v.HoldsClosed) ∧
    (∀ v w : Value, v.DatesWellFormed → w.DatesWellFormed →
      v.plain.order w.plain = v.order w ∧ v.plain.compare? w.plain = v.compare? w ∧
      v.plain.agrees w.plain = v.agrees w ∧ v.plain.isWritable = v.isWritable ∧
      v.plain.plainText = v.plainText ∧ v.plain.display = v.display) ∧
    (∀ (r : Record) (field : String) (target : Value), (r.get field).DatesWellFormed →
      target.DatesWellFormed →
      (Condition.literal target.plain).test r field = (Condition.literal target).test r field ∧
      ∀ op, (Condition.operator op target.plain).test r field =
        (Condition.operator op target).test r field) := by
  refine ⟨fun cs d h => Scalar.isWellFormed_of_read h, fun content path field => ?_, fun d hd => ?_,
    fun v => ⟨shownAs_plain v, fun d => holdsClosed_of_standsIn_plain v⟩, fun v w hv hw => ?_,
    fun r field target hr htarget => ⟨?_, fun op => ?_⟩⟩
  · exact (Document.isFlat_get content path field).datesWellFormed
  · have hread := (Day.read_iso hd).symm
    exact ⟨Day.isWellFormed_toLiteral hd, hread, fun t offset => hread⟩
  · exact ⟨order_plain v w hv hw, compare?_plain hv hw, agrees_plain v w, isWritable_plain v,
      plainText_plain v, display_plain v⟩
  · rw [Condition.test, Condition.test, literalHolds_plain]
  · rw [Condition.test, Condition.test, Operator.holds_plain op hr htarget,
      Operator.answers_plain op hr htarget]

/-- Two lists of lists, and the later one as the target of a condition. -/
theorem Value.plain_indiscernible_of_nested :
    let start : DateLiteral := ⟨2024, 2, 1, "2024-02-01"⟩
    let due : Day := ⟨2024, 11, 3⟩
    let v : Value := .list [.list [.date start], .int 3]
    let w : Value := .list [.list [.date ⟨2024, 11, 3, "2024-11-03"⟩], .null]
    let literals : Value := .list [.list [.text "2024-11-03"], .null]
    let r : Record := ⟨{}, .ofList [("days", v)]⟩
    Scalar.read "2024-02-01".toList = .date start ∧ due.isValid ∧
      (Value.stamp (.day due)).normalize = Scalar.read due.iso.toList ∧
      v.DatesWellFormed ∧ w.DatesWellFormed ∧ v.plain.order literals = .lt ∧
      (Condition.operator .lt literals).test r "days" = .ok (.bool true) := by
  intro start due v w literals r
  obtain ⟨hread, -, hdays, -, hvalues, htargets⟩ := plain_indiscernible
  have hday : Day.toLiteral ⟨2024, 2, 1⟩ = start := by decide
  have hdue : due.toLiteral = ⟨2024, 11, 3, "2024-11-03"⟩ := by decide
  have hstart : Scalar.read "2024-02-01".toList = .date start :=
    hday ▸ Day.read_iso (d := ⟨2024, 2, 1⟩) (by decide)
  have hvalid : due.isValid := by decide
  obtain ⟨hformed, hnormalize, -⟩ := hdays due hvalid
  rw [hdue] at hformed
  have hv : v.DatesWellFormed := ⟨⟨hread _ _ hstart, trivial⟩, trivial, trivial⟩
  have hw : w.DatesWellFormed := ⟨⟨hformed, trivial⟩, trivial, trivial⟩
  have horder : v.order w = .lt := by rfl
  have htest : (Condition.operator .lt w).test r "days" = .ok (.bool true) := by rfl
  refine ⟨hstart, hvalid, hnormalize, hv, hw, ?_, ?_⟩
  · rw [← horder]
    exact (hvalues v w hv hw).1
  · rw [← htest]
    exact (htargets r "days" w hv hw).2 .lt

end NoteQuery
