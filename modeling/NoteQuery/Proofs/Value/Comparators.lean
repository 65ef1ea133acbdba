import NoteQuery.Proofs.Value.DateLiterals
import NoteQuery.Proofs.Value.NumberTexts

/-!
# The order of values and linear comparisons

The order of values uses one measure for two dates, another for two numbers, another for two lists,
and plain texts for all other pairs. So it is no linear order of all values; but on some kinds of
values it agrees with a comparison that is one.

* `order_eq_byText_of`, `order_eq_byText`: pairs that are ordered by their plain texts. Two dates
  are, too, if they are well-formed.
* `order_eq_byNumber`: numbers, booleans and the empty list, ordered by a place among six, and
  within the place of the finite numbers by size.
* `orderItems_eq_compareLex`, `order_eq_nullsLast`: lists, and nulls besides other values.
* `Kind.exists_comparison`: on each of four kinds the order is a linear comparison.
-/

namespace NoteQuery

open Std

/-- Things compared by their images. -/
def byImage {α β : Type} (f : α → β) (cmp : β → β → Ordering) (a b : α) : Ordering :=
  cmp (f a) (f b)

instance {α β : Type} {f : α → β} {cmp : β → β → Ordering} [TransCmp cmp] :
    TransCmp (byImage f cmp) where
  eq_swap {a b} := by
    show cmp (f a) (f b) = (cmp (f b) (f a)).swap
    exact OrientedCmp.eq_swap
  isLE_trans {a b c} hab hbc := by
    show (cmp (f a) (f c)).isLE
    exact TransCmp.isLE_trans (b := f b) hab hbc

namespace Value

/-! ## Kinds of values -/

/-- A number, `nan` left out. -/
inductive IsNumber : Value → Prop
  | int (i : Int) : IsNumber (.int i)
  | float {x : Binary64} : x ≠ .nan → IsNumber (.float x)

/-- Numbers and booleans. -/
inductive IsNumeric : Value → Prop
  | number {v : Value} : v.IsNumber → IsNumeric v
  | bool (b : Bool) : IsNumeric (.bool b)

/-- What counts by its text: texts, booleans and well-formed dates. -/
inductive IsTextual : Value → Prop
  | text (s : String) : IsTextual (.text s)
  | bool (b : Bool) : IsTextual (.bool b)
  | date {d : DateLiteral} : d.IsWellFormed → IsTextual (.date d)

/-- What may stand in a list of a note. -/
inductive IsScalar : Value → Prop
  | null : IsScalar .null
  | textual {v : Value} : v.IsTextual → IsScalar v
  | number {v : Value} : v.IsNumber → IsScalar v

/-- The values of notes: scalars and lists of scalars. -/
inductive IsFlat : Value → Prop
  | scalar {v : Value} : v.IsScalar → IsFlat v
  | list {items : List Value} : (∀ v ∈ items, v.IsScalar) → IsFlat (.list items)

def IsList (v : Value) : Prop := ∃ items, v = .list items

theorem IsNumber.exists_point {v : Value} (h : v.IsNumber) : ∃ p, v.point? = some p := by
  cases h with
  | int i => exact ⟨_, rfl⟩
  | @float x hx =>
    cases x with
    | nan => exact absurd rfl hx
    | infinite negative => cases negative <;> exact ⟨_, rfl⟩
    | finite negative units => exact ⟨_, rfl⟩

theorem IsTextual.ne_null {v : Value} (h : v.IsTextual) : v ≠ .null := by cases h <;> simp

theorem IsTextual.not_isNumber {v : Value} (h : v.IsTextual) : ¬ v.IsNumber := by
  intro hnumber
  cases hnumber <;> cases h

theorem IsTextual.not_isList {v : Value} (h : v.IsTextual) : ¬ v.IsList := by
  rintro ⟨vs, rfl⟩
  cases h

theorem IsTextual.isFlat {v : Value} (h : v.IsTextual) : v.IsFlat := .scalar (.textual h)

theorem IsFlat.isWellFormed {d : DateLiteral} (h : IsFlat (.date d)) : d.IsWellFormed := by
  cases h with
  | scalar h =>
    cases h with
    | textual h =>
      cases h with
      | date h => exact h
    | number h => cases h

theorem IsFlat.isNumber_iff {v : Value} (h : v.IsFlat) : v.isNumber ↔ v.IsNumber := by
  constructor
  · intro hnumber
    rcases h with (_ | h | h) | _
    · cases hnumber
    · cases h <;> cases hnumber
    · exact h
    · cases hnumber
  · intro hnumber
    cases hnumber <;> rfl

/-! ## Nulls -/

theorem order_null_left {v : Value} (h : v ≠ .null) : order .null v = .gt := by
  cases v <;> first | exact absurd rfl h | rfl

theorem order_null_right {v : Value} (h : v ≠ .null) : order v .null = .lt := by
  cases v <;> first | exact absurd rfl h | rfl

/-- A comparison that leaves the order of other values to `cmp` and puts nulls last. -/
def nullsLast (cmp : Value → Value → Ordering) : Value → Value → Ordering :=
  compareLex (compareOn isNull) cmp

instance {cmp : Value → Value → Ordering} [TransCmp cmp] : TransCmp (nullsLast cmp) :=
  inferInstanceAs (TransCmp (compareLex (compareOn isNull) cmp))

theorem isNull_eq_false {v : Value} (h : v ≠ .null) : v.isNull = false := by
  cases v <;> first | exact absurd rfl h | rfl

theorem eq_null {v : Value} (h : v.isNull) : v = .null := by
  cases v <;> first | rfl | cases h

theorem nullsLast_of_ne_null (cmp : Value → Value → Ordering) {v w : Value} (hv : v ≠ .null)
    (hw : w ≠ .null) : nullsLast cmp v w = cmp v w := by
  rw [nullsLast, compareLex, compareOn, isNull_eq_false hv, isNull_eq_false hw]
  rfl

theorem order_eq_nullsLast {cmp : Value → Value → Ordering} [ReflCmp cmp] {v w : Value}
    (h : v ≠ .null → w ≠ .null → v.order w = cmp v w) : v.order w = nullsLast cmp v w := by
  by_cases hv : v = .null
  · by_cases hw : w = .null
    · subst hv hw
      have hself : cmp .null .null = .eq := ReflCmp.compare_self
      rw [nullsLast, compareLex, hself]
      rfl
    · rw [hv, order_null_left hw, nullsLast, compareLex, compareOn, isNull_eq_false hw]
      rfl
  · by_cases hw : w = .null
    · rw [hw, order_null_right hv, nullsLast, compareLex, compareOn, isNull_eq_false hv]
      rfl
    · rw [h hv hw, nullsLast_of_ne_null cmp hv hw]

/-! ## Plain texts -/

def byText : Value → Value → Ordering := compareOn plainText

instance : TransCmp byText := inferInstanceAs (TransCmp (compareOn plainText))

/-- Values of which none is null and that are not both numbers, both lists or both dates are ordered
by their plain texts. Two dates are, too, if they are well-formed. -/
theorem order_eq_byText_of {v w : Value} (hnv : v ≠ .null) (hnw : w ≠ .null)
    (hnumbers : (v.isNumber && w.isNumber) = false) (hlists : ¬ (v.IsList ∧ w.IsList))
    (hdates : ∀ d e, v = .date d → w = .date e → d.IsWellFormed ∧ e.IsWellFormed) :
    v.order w = byText v w := by
  rw [order.eq_def]
  split
  · exact absurd rfl hnv
  · exact absurd rfl hnv
  · exact absurd rfl hnw
  · rename_i d e
    obtain ⟨hd, he⟩ := hdates d e rfl rfl
    rw [hd.orderDates_eq he]
    show compare d.raw e.raw = compare (String.ofList d.raw.toList) (String.ofList e.raw.toList)
    rw [String.ofList_toList, String.ofList_toList]
  · rename_i a b
    cases a <;> cases b <;> decide
  · rename_i vs ws
    exact absurd ⟨⟨vs, rfl⟩, ws, rfl⟩ hlists
  · rw [hnumbers]
    rfl

theorem order_eq_byText {v w : Value} (hv : v.IsFlat) (hw : w.IsFlat) (hnv : v ≠ .null)
    (hnw : w ≠ .null) (hnumbers : ¬ (v.IsNumber ∧ w.IsNumber)) (hlists : ¬ (v.IsList ∧ w.IsList)) :
    v.order w = byText v w := by
  have hneither : (v.isNumber && w.isNumber) = false := by
    rw [Bool.eq_false_iff, ne_eq, Bool.and_eq_true, hv.isNumber_iff, hw.isNumber_iff]
    exact hnumbers
  refine order_eq_byText_of hnv hnw hneither hlists fun d e hd he => ?_
  subst hd he
  exact ⟨hv.isWellFormed, hw.isWellFormed⟩

/-! ## Numbers -/

/-- The place of a point among numbers, booleans and the empty list. -/
def placeOfPoint : Binary64.Point → Nat
  | .least => 1
  | .units _ => 2
  | .greatest => 4

def sizeOfPoint : Binary64.Point → Int
  | .units n => n
  | _ => 0

def place : Value → Nat
  | .bool b => if b then 5 else 3
  | v => (v.point?.map placeOfPoint).getD 0

def size (v : Value) : Int := (v.point?.map sizeOfPoint).getD 0

def byNumber : Value → Value → Ordering := compareLex (compareOn place) (compareOn size)

instance : TransCmp byNumber :=
  inferInstanceAs (TransCmp (compareLex (compareOn place) (compareOn size)))

theorem place_of_point {v : Value} {p : Binary64.Point} (h : v.point? = some p) :
    v.place = placeOfPoint p := by
  cases v with
  | bool b => cases h
  | _ => rw [place, h] <;> simp

theorem compare_points (p q : Binary64.Point) :
    p.compare q = (compare (placeOfPoint p) (placeOfPoint q)).then
      (compare (sizeOfPoint p) (sizeOfPoint q)) := by
  cases p <;> cases q <;> rfl

theorem byNumber_of_points {v w : Value} {p q : Binary64.Point} (hv : v.point? = some p)
    (hw : w.point? = some q) : byNumber v w = p.compare q := by
  rw [compare_points, byNumber, compareLex, compareOn, compareOn, place_of_point hv,
    place_of_point hw, size, size, hv, hw]
  rfl

theorem order_numbers {v w : Value} (hv : v.IsNumber) (hw : w.IsNumber) :
    v.order w = byNumber v w := by
  obtain ⟨p, hp⟩ := hv.exists_point
  obtain ⟨q, hq⟩ := hw.exists_point
  have horder : v.order w = orderNumbers v w := by cases hv <;> cases hw <;> rfl
  rw [horder, orderNumbers, hp, hq, byNumber_of_points hp hq]

theorem byText_eq_compareLex (v w : Value) :
    byText v w = List.compareLex compare v.plainChars w.plainChars :=
  Text.compare_ofList _ _

/-- `false` and `true` stand where their texts stand among the texts of numbers. -/
theorem byText_bool {v : Value} (h : v.IsNumber) (b : Bool) :
    byText v (.bool b) = byNumber v (.bool b) := by
  obtain ⟨p, hp⟩ := h.exists_point
  rw [byText_eq_compareLex, byNumber, compareLex, compareOn, place_of_point hp]
  by_cases hgreatest : p = .greatest
  · subst hgreatest
    rw [plainChars_of_greatest hp]
    cases b <;> rfl
  · obtain ⟨c, cs, hchars, hc⟩ := exists_plainChars hp hgreatest
    have hword : ∃ d ds, (Value.bool b).plainChars = d :: ds ∧ c < d := by
      cases b with
      | false => exact ⟨'f', _, rfl, hc⟩
      | true => exact ⟨'t', _, rfl, Char.lt_trans hc (by decide)⟩
    obtain ⟨d, ds, hbool, hd⟩ := hword
    have hchar : compare c d = .lt := compareOfLessAndEq_eq_lt.mpr hd
    rw [hchars, hbool, List.compareLex_cons_cons, hchar]
    cases p with
    | greatest => exact absurd rfl hgreatest
    | _ => cases b <;> rfl

theorem byText_nil {v : Value} (h : v.IsNumeric) :
    byText (.list []) v = byNumber (.list []) v := by
  cases h with
  | bool b => cases b <;> rfl
  | number h =>
    obtain ⟨p, hp⟩ := h.exists_point
    have hchars : ∃ c cs, v.plainChars = c :: cs := by
      by_cases hgreatest : p = .greatest
      · exact ⟨'i', _, plainChars_of_greatest (hgreatest ▸ hp)⟩
      · obtain ⟨c, cs, hchars, -⟩ := exists_plainChars hp hgreatest
        exact ⟨c, cs, hchars⟩
    obtain ⟨c, cs, hchars⟩ := hchars
    have hnil : (Value.list []).plainChars = [] := rfl
    rw [byText_eq_compareLex, hchars, hnil, List.compareLex_nil_cons, byNumber, compareLex,
      compareOn, place_of_point hp]
    cases p <;> rfl

theorem byText_eq_byNumber_symm {v w : Value} (h : byText v w = byNumber v w) :
    byText w v = byNumber w v :=
  calc byText w v = (byText v w).swap := OrientedCmp.eq_swap
    _ = (byNumber v w).swap := by rw [h]
    _ = byNumber w v := OrientedCmp.eq_swap.symm

theorem order_eq_byNumber {v w : Value} (hv : v.IsNumeric ∨ v = .list [])
    (hw : w.IsNumeric ∨ w = .list []) : v.order w = byNumber v w := by
  rcases hv with (hv | a) | rfl
  · rcases hw with (hw | b) | rfl
    · exact order_numbers hv hw
    · rw [← byText_bool hv]
      cases hv <;> rfl
    · rw [← byText_eq_byNumber_symm (byText_nil (.number hv))]
      cases hv <;> rfl
  · rcases hw with (hw | b) | rfl
    · rw [← byText_eq_byNumber_symm (byText_bool hw a)]
      cases hw <;> rfl
    · cases a <;> cases b <;> rfl
    · cases a <;> rfl
  · rcases hw with hw | rfl
    · rw [← byText_nil hw]
      rcases hw with hw | b
      · cases hw <;> rfl
      · rfl
    · rfl

/-! ## Lists -/

/-- The items of a list. -/
def items : Value → List Value
  | .list vs => vs
  | _ => []

/-- Lists by the first items that differ for `cmp`. -/
def byItems (cmp : Value → Value → Ordering) : Value → Value → Ordering :=
  byImage items (List.compareLex cmp)

instance {cmp : Value → Value → Ordering} [TransCmp cmp] : TransCmp (byItems cmp) :=
  inferInstanceAs (TransCmp (byImage items (List.compareLex cmp)))

theorem orderItems_eq_compareLex {cmp : Value → Value → Ordering} {vs ws : List Value}
    (h : ∀ v ∈ vs, ∀ w ∈ ws, v.order w = cmp v w) :
    orderItems vs ws = List.compareLex cmp vs ws := by
  induction vs generalizing ws with
  | nil =>
    cases ws with
    | nil => rfl
    | cons w ws => rfl
  | cons v vs ih =>
    cases ws with
    | nil => rfl
    | cons w ws =>
      rw [orderItems, List.compareLex_cons_cons, h v List.mem_cons_self w List.mem_cons_self,
        ih fun x hx y hy => h x (List.mem_cons_of_mem _ hx) y (List.mem_cons_of_mem _ hy)]

/-! ## Kinds with a linear comparison -/

/-- A kind of values on which the order is a linear comparison. -/
inductive Kind where
  | text
  | number
  | texts
  | numbers

/-- Texts, booleans, well-formed dates and the empty list; numbers, booleans and the empty list;
lists of nulls and of what counts by its text; lists of nulls, numbers and booleans. Lists of the
last two kinds together would be no kind: `[10]` comes before `["9"]`, which is as good as `[9]`. -/
def Kind.Has : Kind → Value → Prop
  | text, v => v.IsTextual ∨ v = .list []
  | number, v => v.IsNumeric ∨ v = .list []
  | texts, v => ∃ vs, v = .list vs ∧ ∀ i ∈ vs, i = .null ∨ i.IsTextual
  | numbers, v => ∃ vs, v = .list vs ∧ ∀ i ∈ vs, i = .null ∨ i.IsNumeric

theorem Kind.Has.isFlat {kind : Kind} {v : Value} (h : kind.Has v) : v.IsFlat := by
  cases kind with
  | text =>
    rcases h with h | rfl
    · exact h.isFlat
    · exact .list (List.forall_mem_nil _)
  | number =>
    rcases h with (h | b) | rfl
    · exact .scalar (.number h)
    · exact .scalar (.textual (.bool b))
    · exact .list (List.forall_mem_nil _)
  | texts =>
    obtain ⟨vs, rfl, hvs⟩ := h
    refine .list fun i hi => ?_
    rcases hvs i hi with rfl | h
    · exact .null
    · exact .textual h
  | numbers =>
    obtain ⟨vs, rfl, hvs⟩ := h
    refine .list fun i hi => ?_
    rcases hvs i hi with rfl | h | b
    · exact .null
    · exact .number h
    · exact .textual (.bool b)

theorem order_eq_byText_of_textual {v w : Value} (hv : v.IsTextual ∨ v = .list [])
    (hw : w.IsTextual ∨ w = .list []) : v.order w = byText v w := by
  rcases hv with hv | rfl
  · rcases hw with hw | rfl
    · exact order_eq_byText hv.isFlat hw.isFlat hv.ne_null hw.ne_null
        (fun h => hv.not_isNumber h.1) (fun h => hv.not_isList h.1)
    · cases hv <;> rfl
  · rcases hw with hw | rfl
    · cases hw <;> rfl
    · rfl

theorem order_eq_byItems {cmp : Value → Value → Ordering} [ReflCmp cmp] {P : Value → Prop}
    (hcmp : ∀ v w, P v → P w → v.order w = cmp v w) {vs ws : List Value}
    (hvs : ∀ i ∈ vs, i = .null ∨ P i) (hws : ∀ i ∈ ws, i = .null ∨ P i) :
    order (.list vs) (.list ws) = byItems (nullsLast cmp) (.list vs) (.list ws) := by
  show orderItems vs ws = List.compareLex (nullsLast cmp) vs ws
  apply orderItems_eq_compareLex
  intro v hv w hw
  apply order_eq_nullsLast
  intro hnv hnw
  exact hcmp v w ((hvs v hv).resolve_left hnv) ((hws w hw).resolve_left hnw)

/-- On each kind the order is a linear comparison. -/
theorem Kind.exists_comparison (kind : Kind) :
    ∃ cmp, TransCmp cmp ∧ ∀ v w, kind.Has v → kind.Has w → v.order w = cmp v w := by
  cases kind with
  | text => exact ⟨byText, inferInstance, fun v w => order_eq_byText_of_textual⟩
  | number => exact ⟨byNumber, inferInstance, fun v w => order_eq_byNumber⟩
  | texts =>
    refine ⟨byItems (nullsLast byText), inferInstance, ?_⟩
    rintro v w ⟨vs, rfl, hvs⟩ ⟨ws, rfl, hws⟩
    exact order_eq_byItems
      (fun v w hv hw => order_eq_byText_of_textual (Or.inl hv) (Or.inl hw)) hvs hws
  | numbers =>
    refine ⟨byItems (nullsLast byNumber), inferInstance, ?_⟩
    rintro v w ⟨vs, rfl, hvs⟩ ⟨ws, rfl, hws⟩
    exact order_eq_byItems (fun v w hv hw => order_eq_byNumber (Or.inl hv) (Or.inl hw)) hvs hws

end Value

end NoteQuery
