import NoteQuery.Proofs.Value.Antisymmetry
import NoteQuery.Proofs.Value.PlainDates

/-!
# Equality beside the order

Conditions ask for equality by one rule and for order by another. The first goes by what a scalar
stands for: nothing, a truth value, a point among the numbers or a text, which is the literal of a
date; two scalars agree if they stand for the same, and two lists if their items do. The second has a
measure for each pair of kinds. On values with well-formed dates and without `nan` the two rules fit:
values that agree are level, and level values agree if one measure applies to both.

* `agrees_iff_content?`: scalars agree if they stand for the same.
* `IsData.agrees_comm`, `IsData.agrees_trans`, `IsOrderable.agrees_self`: the laws of equality. Only
  `nan` does not agree with itself.
* `IsRegular.compare?_of_agrees`, `SameMeasure.agrees_of_order_eq`: equality and order.
* `agrees_equivalence`: all of it, with what it means for conditions.
-/

namespace NoteQuery

open Std

namespace Value

/-! ## What scalars stand for -/

/-- What a scalar stands for. -/
inductive Content where
  | nothing
  | truth (b : Bool)
  | point (p : Binary64.Point)
  | text (s : String)

/-- What the value stands for, if it is a scalar other than `nan`. -/
def content? : Value → Option Content
  | null => some .nothing
  | bool b => some (.truth b)
  | text s => some (.text s)
  | date d => some (.text d.raw)
  | v => v.point?.map .point

theorem equalNumbers_iff {v : Value} {p : Binary64.Point} (h : v.point? = some p) (w : Value) :
    equalNumbers v w ↔ w.point? = some p := by
  rw [equalNumbers, h]
  cases w.point? with
  | none => simp
  | some q =>
    rw [Option.some.injEq]
    exact beq_iff_eq.trans eq_comm

theorem content?_eq_point_iff {v : Value} {p : Binary64.Point} :
    v.content? = some (.point p) ↔ v.point? = some p := by
  cases v with
  | int i | float x => simp [content?]
  | _ => simp [content?, point?]

theorem equalNumbers_of_not_isNumber {v : Value} (h : v.isNumber = false) (w : Value) :
    equalNumbers v w = false := by
  cases v <;> first | rfl | cases h

theorem agrees_eq_equalNumbers {v : Value} (h : v.isNumber) (w : Value) :
    v.agrees w = equalNumbers v w := by
  cases v <;> cases h <;> (cases w <;> rfl)

/-- A scalar agrees with the values that stand for the same. -/
theorem agrees_iff_content? {v : Value} {c : Content} (h : v.content? = some c) (w : Value) :
    v.agrees w ↔ w.content? = some c := by
  cases hnumber : v.isNumber with
  | true =>
    obtain ⟨p, hpoint, rfl⟩ : ∃ p, v.point? = some p ∧ Content.point p = c := by
      cases v <;> cases hnumber <;> simpa [content?] using h
    rw [agrees_eq_equalNumbers hnumber, equalNumbers_iff hpoint, content?_eq_point_iff]
  | false =>
    cases v with
    | null | bool b | text s | date d =>
      cases h
      cases w <;> simp [agrees, content?, equalNumbers_of_not_isNumber hnumber] <;> exact eq_comm
    | int i | float x => cases hnumber
    | _ => cases h

/-! ## Fields -/

/-- What a field holds: nulls, booleans, texts, dates, numbers, `nan` among them, and lists of such
values, at any depth. -/
inductive IsData : Value → Prop
  | scalar {v : Value} {c : Content} : v.content? = some c → IsData v
  | nan : IsData (.float .nan)
  | list {items : List Value} : (∀ v ∈ items, IsData v) → IsData (.list items)

theorem IsNumber.isData {v : Value} (h : v.IsNumber) : v.IsData := by
  obtain ⟨p, hp⟩ := h.exists_point
  exact .scalar (content?_eq_point_iff.mpr hp)

theorem IsOrderable.isData {v : Value} (h : v.IsOrderable) : v.IsData := by
  induction h with
  | number h => exact h.isData
  | list _ ih => exact .list ih
  | null | bool | text | date => exact .scalar rfl

theorem IsData.normalize_eq {v : Value} (h : v.IsData) : v.normalize = v := by
  induction h with
  | @scalar v c h =>
    cases v <;> first | rfl | cases h
  | nan => rfl
  | @list items _ ih => rw [normalize, normalizeAll_eq_map, List.map_congr_left ih, List.map_id']

/-! ## The laws of equality -/

theorem equalNumbers_comm (v w : Value) : equalNumbers v w = equalNumbers w v := by
  rw [equalNumbers, equalNumbers]
  cases v.point? with
  | none => cases w.point? <;> rfl
  | some p =>
    cases w.point? with
    | none => rfl
    | some q => exact Bool.beq_comm

theorem agrees_nan (v : Value) : agrees (.float .nan) v = false := by
  rw [agrees_eq_equalNumbers rfl]
  rfl

theorem agrees_comm_of_isNumber {v : Value} (h : v.isNumber) (w : Value) :
    v.agrees w = w.agrees v := by
  have hsides : w.agrees v = equalNumbers w v := by
    cases v <;> cases h <;> (cases w <;> rfl)
  rw [agrees_eq_equalNumbers h, hsides, equalNumbers_comm]

theorem agrees_list_iff {vs : List Value} {w : Value} :
    (list vs).agrees w ↔ ∃ ws, w = .list ws ∧ agreesAll vs ws := by
  cases w <;> simp [agrees, equalNumbers_of_not_isNumber (v := .list vs) rfl]

theorem agreesAll_comm {vs ws : List Value} (h : ∀ v ∈ vs, ∀ w, v.agrees w = w.agrees v) :
    agreesAll vs ws = agreesAll ws vs := by
  induction vs generalizing ws with
  | nil => cases ws <;> rfl
  | cons v vs ih =>
    cases ws with
    | nil => rfl
    | cons w ws =>
      rw [agreesAll, agreesAll, h v List.mem_cons_self,
        ih fun x hx => h x (List.mem_cons_of_mem _ hx)]

theorem agreesAll_trans {vs ws xs : List Value}
    (h : ∀ v ∈ vs, ∀ w x : Value, v.agrees w → w.agrees x → v.agrees x)
    (hvw : agreesAll vs ws) (hwx : agreesAll ws xs) : agreesAll vs xs := by
  induction vs generalizing ws xs with
  | nil =>
    cases ws with
    | nil => exact hwx
    | cons w ws => cases hvw
  | cons v vs ih =>
    cases ws with
    | nil => cases hvw
    | cons w ws =>
      cases xs with
      | nil => cases hwx
      | cons x xs =>
        rw [agreesAll, Bool.and_eq_true] at hvw hwx ⊢
        exact ⟨h v List.mem_cons_self w x hvw.1 hwx.1,
          ih (fun y hy => h y (List.mem_cons_of_mem _ hy)) hvw.2 hwx.2⟩

theorem agreesAll_self {vs : List Value} (h : ∀ v ∈ vs, v.agrees v) : agreesAll vs vs := by
  induction vs with
  | nil => rfl
  | cons v vs ih =>
    rw [agreesAll, Bool.and_eq_true]
    exact ⟨h v List.mem_cons_self, ih fun x hx => h x (List.mem_cons_of_mem _ hx)⟩

/-- Equality is the same from both sides, whatever the other value is. -/
theorem IsData.agrees_comm {v : Value} (h : v.IsData) (w : Value) : v.agrees w = w.agrees v := by
  induction h generalizing w with
  | nan => exact agrees_comm_of_isNumber rfl w
  | @list vs _ ih =>
    cases w with
    | list ws => exact agreesAll_comm ih
    | int i | float x => exact (agrees_comm_of_isNumber rfl _).symm
    | _ => rfl
  | @scalar v c h =>
    cases v with
    | int i | float x => exact agrees_comm_of_isNumber rfl w
    | null | bool a | text s | date d =>
      cases w with
      | int i | float x => exact (agrees_comm_of_isNumber rfl _).symm
      | _ => first | rfl | exact Bool.beq_comm
    | _ => cases h

theorem IsData.agrees_trans {v w x : Value} (h : v.IsData) (hvw : v.agrees w)
    (hwx : w.agrees x) : v.agrees x := by
  induction h generalizing w x with
  | @scalar v c hc =>
    have hw := (agrees_iff_content? hc w).mp hvw
    exact (agrees_iff_content? hc x).mpr ((agrees_iff_content? hw x).mp hwx)
  | nan =>
    rw [agrees_nan] at hvw
    cases hvw
  | @list vs _ ih =>
    obtain ⟨ws, rfl, hvw⟩ := agrees_list_iff.mp hvw
    obtain ⟨xs, rfl, hwx⟩ := agrees_list_iff.mp hwx
    exact agrees_list_iff.mpr ⟨xs, rfl, agreesAll_trans (fun v hv w x => ih v hv) hvw hwx⟩

/-- Without `nan`, a value agrees with itself. -/
theorem IsOrderable.agrees_self {v : Value} (h : v.IsOrderable) : v.agrees v := by
  induction h with
  | list _ ih => exact agreesAll_self ih
  | number h =>
    obtain ⟨p, hp⟩ := h.exists_point
    exact (agrees_iff_content? (content?_eq_point_iff.mpr hp) _).mpr (content?_eq_point_iff.mpr hp)
  | null | bool | text | date => exact (agrees_iff_content? rfl _).mpr rfl

/-! ## Equality and order -/

/-- Texts and dates. -/
inductive IsLiteral : Value → Prop
  | text (s : String) : IsLiteral (.text s)
  | date (d : DateLiteral) : IsLiteral (.date d)

/-- Two numbers, two booleans, or two values that are texts or dates. -/
inductive SameMeasure : Value → Value → Prop
  | numbers {v w : Value} : v.IsNumber → w.IsNumber → SameMeasure v w
  | truths (a b : Bool) : SameMeasure (.bool a) (.bool b)
  | literals {v w : Value} : v.IsLiteral → w.IsLiteral → SameMeasure v w

theorem comparePoints_eq_eq_iff {p q : Binary64.Point} : p.compare q = .eq ↔ p = q := by
  cases p <;> cases q <;> simp [Binary64.Point.compare]

/-- Texts and well-formed dates are ordered by what they stand for. -/
theorem IsLiteral.order_eq_compare {v w : Value} (hv : v.IsLiteral) (hw : w.IsLiteral)
    (hdv : v.DatesWellFormed) (hdw : w.DatesWellFormed) :
    ∃ s t, v.content? = some (.text s) ∧ w.content? = some (.text t) ∧
      v.order w = compare s t := by
  have hcontent : ∀ {u : Value}, u.IsLiteral →
      u.content? = some (.text u.plainText) ∧ u ≠ .null ∧ u.isNumber = false ∧ ¬ u.IsList := by
    intro u hu
    cases hu with
    | text s => simp [content?, plainText, plainChars, bareChars, isNumber, IsList]
    | date d => simp [content?, plainText, plainChars, bareChars, isNumber, IsList]
  obtain ⟨hcv, hnv, hnumber, hlist⟩ := hcontent hv
  obtain ⟨hcw, hnw, -, -⟩ := hcontent hw
  refine ⟨_, _, hcv, hcw, ?_⟩
  refine order_eq_byText_of hnv hnw (by rw [hnumber]; rfl) (fun h => hlist h.1) ?_
  rintro d e rfl rfl
  exact ⟨hdv, hdw⟩

theorem IsLiteral.isWritable {v : Value} (h : v.IsLiteral) : v.isWritable := by
  cases h <;> rfl

theorem isLiteral_of_content? {v : Value} {s : String} (h : v.content? = some (.text s)) :
    v.IsLiteral := by
  cases v <;> first | constructor | simp [content?] at h

theorem isNumber_of_point? {v : Value} {p : Binary64.Point} (h : v.point? = some p) :
    v.isNumber := by
  cases v <;> first | rfl | cases h

theorem order_of_points {v w : Value} {p q : Binary64.Point} (hv : v.point? = some p)
    (hw : w.point? = some q) : v.order w = p.compare q := by
  rw [order_of_isNumber (isNumber_of_point? hv) (isNumber_of_point? hw), orderNumbers, hv, hw]

/-- Scalars that stand for the same are level. -/
theorem order_eq_of_content? {v w : Value} {c : Content} (hv : v.content? = some c)
    (hw : w.content? = some c) (hdv : v.DatesWellFormed) (hdw : w.DatesWellFormed) :
    v.order w = .eq := by
  cases c with
  | nothing =>
    cases v <;> simp [content?] at hv
    cases w <;> simp [content?] at hw
    rfl
  | truth b =>
    cases v <;> simp [content?] at hv
    cases w <;> simp [content?] at hw
    rw [hv, hw]
    cases b <;> rfl
  | point p =>
    rw [order_of_points (content?_eq_point_iff.mp hv) (content?_eq_point_iff.mp hw),
      comparePoints_eq_eq_iff]
  | text s =>
    obtain ⟨t, u, ht, hu, horder⟩ := (isLiteral_of_content? hv).order_eq_compare
      (isLiteral_of_content? hw) hdv hdw
    rw [hv] at ht
    rw [hw] at hu
    cases ht
    cases hu
    rw [horder, Std.compare_eq_iff_eq]

theorem orderItems_eq_of_agreesAll {vs ws : List Value}
    (h : ∀ v ∈ vs, ∀ w : Value, v.DatesWellFormed → w.DatesWellFormed → v.agrees w →
      v.order w = .eq) (hvs : ItemDatesWellFormed vs) (hws : ItemDatesWellFormed ws)
    (hagrees : agreesAll vs ws) : orderItems vs ws = .eq := by
  induction vs generalizing ws with
  | nil =>
    cases ws with
    | nil => rfl
    | cons w ws => cases hagrees
  | cons v vs ih =>
    cases ws with
    | nil => cases hagrees
    | cons w ws =>
      rw [agreesAll, Bool.and_eq_true] at hagrees
      rw [orderItems, h v List.mem_cons_self w hvs.1 hws.1 hagrees.1]
      exact ih (fun x hx => h x (List.mem_cons_of_mem _ hx)) hvs.2 hws.2 hagrees.2

/-- Values that agree are level. -/
theorem IsData.order_eq_of_agrees {v w : Value} (h : v.IsData) (hv : v.DatesWellFormed)
    (hw : w.DatesWellFormed) (hagrees : v.agrees w) : v.order w = .eq := by
  induction h generalizing w with
  | scalar hc => exact order_eq_of_content? hc ((agrees_iff_content? hc w).mp hagrees) hv hw
  | nan =>
    rw [agrees_nan] at hagrees
    cases hagrees
  | list _ ih =>
    obtain ⟨ws, rfl, hall⟩ := agrees_list_iff.mp hagrees
    exact orderItems_eq_of_agreesAll (fun v hv' w hdv hdw => ih v hv' hdv hdw) hv hw hall

/-! Values that agree are not compared by the text of an integer, however many digits it has. -/

theorem isComparable_of_content? {v w : Value} {c : Content} (hv : v.content? = some c)
    (hw : w.content? = some c) : v.isComparable w := by
  cases c with
  | nothing =>
    cases v <;> simp [content?] at hv
    rfl
  | truth b =>
    cases v <;> simp [content?] at hv
    cases w <;> simp [content?] at hw
    rfl
  | point p =>
    exact isComparable_of_isNumber (isNumber_of_point? (content?_eq_point_iff.mp hv))
      (isNumber_of_point? (content?_eq_point_iff.mp hw))
  | text s =>
    exact isComparable_of_isWritable v w (isLiteral_of_content? hv).isWritable
      (isLiteral_of_content? hw).isWritable

theorem areComparable_of_agreesAll {vs ws : List Value}
    (h : ∀ v ∈ vs, ∀ w : Value, v.agrees w → v.isComparable w) (hagrees : agreesAll vs ws) :
    areComparable vs ws := by
  induction vs generalizing ws with
  | nil => rfl
  | cons v vs ih =>
    cases ws with
    | nil => rfl
    | cons w ws =>
      rw [agreesAll, Bool.and_eq_true] at hagrees
      exact areComparable_cons.mpr ⟨h v List.mem_cons_self w hagrees.1,
        fun _ => ih (fun x hx => h x (List.mem_cons_of_mem _ hx)) hagrees.2⟩

theorem IsData.isComparable_of_agrees {v w : Value} (h : v.IsData) (hagrees : v.agrees w) :
    v.isComparable w := by
  induction h generalizing w with
  | scalar hc => exact isComparable_of_content? hc ((agrees_iff_content? hc w).mp hagrees)
  | nan =>
    rw [agrees_nan] at hagrees
    cases hagrees
  | list _ ih =>
    obtain ⟨ws, rfl, hall⟩ := agrees_list_iff.mp hagrees
    exact areComparable_of_agreesAll (fun v hv' w => ih v hv') hall

/-- Level values agree if one measure applies to both. -/
theorem SameMeasure.agrees_of_order_eq {v w : Value} (h : SameMeasure v w)
    (hv : v.DatesWellFormed) (hw : w.DatesWellFormed) (horder : v.order w = .eq) :
    v.agrees w := by
  cases h with
  | numbers hnv hnw =>
    obtain ⟨p, hp⟩ := hnv.exists_point
    obtain ⟨q, hq⟩ := hnw.exists_point
    rw [order_of_points hp hq, comparePoints_eq_eq_iff] at horder
    rw [agrees_iff_content? (content?_eq_point_iff.mpr hp), horder]
    exact content?_eq_point_iff.mpr hq
  | truths a b =>
    cases a <;> cases b <;> first | rfl | cases horder
  | literals hlv hlw =>
    obtain ⟨s, t, hs, ht, hcompare⟩ := hlv.order_eq_compare hlw hv hw
    rw [hcompare, Std.compare_eq_iff_eq] at horder
    rw [agrees_iff_content? hs, horder]
    exact ht

/-! ## Regular values -/

/-- Values without `nan`, and with well-formed dates only, at any depth of lists. -/
structure IsRegular (v : Value) : Prop where
  orderable : v.IsOrderable
  dates : v.DatesWellFormed

theorem IsRegular.order_eq_of_agrees {v w : Value} (hv : v.IsRegular) (hw : w.IsRegular)
    (h : v.agrees w) : v.order w = .eq :=
  hv.orderable.isData.order_eq_of_agrees hv.dates hw.dates h

theorem IsRegular.compare?_of_agrees {v w : Value} (hv : v.IsRegular) (hw : w.IsRegular)
    (h : v.agrees w) : v.compare? w = some .eq := by
  rw [compare?_of_isComparable (hv.orderable.isData.isComparable_of_agrees h),
    hv.order_eq_of_agrees hw h]

theorem equivalence_regular :
    Equivalence fun v w : {v : Value // v.IsRegular} => v.val.agrees w.val where
  refl v := v.property.orderable.agrees_self
  symm {v w} h := by rwa [w.property.orderable.isData.agrees_comm]
  trans {v _ _} h h' := v.property.orderable.isData.agrees_trans h h'

end Value

/-- A field that agrees with a target is neither more nor less than it. -/
theorem Condition.tests_of_agrees {r : Record} {field : String} {target : Value}
    (hr : (r.get field).IsRegular) (ht : target.IsRegular)
    (h : (ofOperator .eq target).test r field = .ok (.bool true)) :
    (ofOperator .gte target).test r field = .ok (.bool true) ∧
      (ofOperator .lte target).test r field = .ok (.bool true) ∧
      (ofOperator .gt target).test r field = .ok (.bool false) ∧
      (ofOperator .lt target).test r field = .ok (.bool false) := by
  have hagrees : (r.get field).agrees target := by
    simpa [ofOperator, ht.orderable.normalize_eq, test, Operator.holds, Operator.answers] using h
  have horder := hr.order_eq_of_agrees ht hagrees
  have hcomparable := hr.orderable.isData.isComparable_of_agrees hagrees
  simp [ofOperator, ht.orderable.normalize_eq, test, Operator.holds, Operator.answers, horder,
    hcomparable]

/-- On values without `nan` and with well-formed dates, equality is an equivalence relation, and
values that agree are level in the order. So a field that equals a target is at least and at most the
target, and neither more nor less. Level values agree if both are numbers, both are booleans, or both
are texts or dates. -/
theorem Value.agrees_equivalence :
    (Equivalence fun v w : {v : Value // v.IsRegular} => v.val.agrees w.val) ∧
    (∀ v w : Value, v.IsRegular → w.IsRegular → v.agrees w → v.compare? w = some .eq) ∧
    (∀ (r : Record) (field : String) (target : Value),
      (r.get field).IsRegular → target.IsRegular →
      (Condition.ofOperator .eq target).test r field = .ok (.bool true) →
      (Condition.ofOperator .gte target).test r field = .ok (.bool true) ∧
        (Condition.ofOperator .lte target).test r field = .ok (.bool true) ∧
        (Condition.ofOperator .gt target).test r field = .ok (.bool false) ∧
        (Condition.ofOperator .lt target).test r field = .ok (.bool false)) ∧
    (∀ v w : Value, v.IsRegular → w.IsRegular → SameMeasure v w → v.order w = .eq →
      v.agrees w) :=
  ⟨equivalence_regular, fun _ _ hv hw => hv.compare?_of_agrees hw,
    fun _ _ _ hr ht => Condition.tests_of_agrees hr ht,
    fun _ _ hv hw hmeasure => hmeasure.agrees_of_order_eq hv.dates hw.dates⟩

/-- A date stands for its literal and an integer for the float of its size, also in lists of lists. -/
theorem Value.agrees_equivalence_of_nested :
    let day : DateLiteral := ⟨2024, 2, 1, "2024-02-01"⟩
    let two : Value := .float (.finite false (2 * Binary64.unitsPerOne))
    let v : Value := .list [.list [.date day], .int 2]
    let w : Value := .list [.list [.text day.raw], two]
    let x : Value := .list [.list [.date day], two]
    let r : Record := ⟨{}, .ofList [("days", v)]⟩
    v.IsRegular ∧ w.IsRegular ∧ x.IsRegular ∧ v.agrees w ∧ w.agrees x ∧ v.agrees x ∧
      v.compare? x = some .eq ∧ (Condition.ofOperator .eq w).test r "days" = .ok (.bool true) ∧
      (Condition.ofOperator .gt w).test r "days" = .ok (.bool false) ∧
      SameMeasure (.int 2) two ∧ order (.int 2) two = .eq ∧ agrees (.int 2) two := by
  intro day two v w x r
  have hday : day.IsWellFormed := Day.isWellFormed_toLiteral (d := ⟨2024, 2, 1⟩) (by decide)
  have hnumber : two.IsNumber := .float (by simp)
  have hint : IsRegular (.int 2) := ⟨.number (.int 2), trivial⟩
  have htwo : two.IsRegular := ⟨.number hnumber, trivial⟩
  have hpair : ∀ {a b : Value}, a.IsRegular → b.IsRegular →
      IsRegular (.list [.list [a], b]) := fun ha hb =>
    ⟨.list (List.forall_mem_cons.mpr ⟨.list (List.forall_mem_singleton.mpr ha.orderable),
      List.forall_mem_singleton.mpr hb.orderable⟩), ⟨ha.dates, trivial⟩, hb.dates, trivial⟩
  have hdate : IsRegular (.date day) := ⟨.date day, hday⟩
  have htext : IsRegular (.text day.raw) := ⟨.text _, trivial⟩
  have hv : v.IsRegular := hpair hdate hint
  have hw : w.IsRegular := hpair htext htwo
  have hx : x.IsRegular := hpair hdate htwo
  have hvw : v.agrees w := by decide +kernel
  have hwx : w.agrees x := by decide +kernel
  have hlevel : order (.int 2) two = .eq := by decide +kernel
  have htest : (Condition.ofOperator .eq w).test r "days" = .ok (.bool true) :=
    congrArg (fun b => Except.ok (Value.bool b)) hvw
  obtain ⟨hequal, horder, htests, hmeasure⟩ := agrees_equivalence
  have hvx : v.agrees x := hequal.trans (x := ⟨v, hv⟩) (y := ⟨w, hw⟩) (z := ⟨x, hx⟩) hvw hwx
  exact ⟨hv, hw, hx, hvw, hwx, hvx, horder v x hv hx hvx, htest,
    (htests r "days" w hv hw htest).2.2.1, .numbers (.int 2) hnumber, hlevel,
    hmeasure _ _ hint htwo (.numbers (.int 2) hnumber) hlevel⟩

end NoteQuery
