import Mathlib.Data.List.Forall2
import NoteQuery.Note.Row
import NoteQuery.Proofs.Value.Comparators

/-!
# Values as rows show them

A row shows a date by its literal, and a list item by item. So no date is left in what it shows but
inside of a tuple or a table, which are shown as they are. Values of notes hold neither.

* `shownAs_iff`: what a row shows for a value.
* `holdsClosed_of_standsIn_plain`, `IsFlat.not_standsIn_plain`: dates that are left.
-/

namespace NoteQuery

namespace Value

/-- A row shows a date by its literal, a list item by item, and every other value as it is. -/
inductive ShownAs : Value → Value → Prop
  | literal (d : DateLiteral) : ShownAs (.date d) (.text d.raw)
  | list {vs ws : List Value} (items : List.Forall₂ ShownAs vs ws) : ShownAs (.list vs) (.list ws)
  | same {v : Value} (notDate : ∀ d, v ≠ .date d) (notList : ¬ v.IsList) : ShownAs v v

/-- A value is another one, or stands somewhere inside it. -/
inductive StandsIn (w : Value) : Value → Prop
  | here : StandsIn w w
  | item {vs : List Value} {v : Value} (mem : v ∈ vs) (inside : StandsIn w v) : StandsIn w (.list vs)
  | part {vs : List Value} {v : Value} (mem : v ∈ vs) (inside : StandsIn w v) :
      StandsIn w (.tuple vs)
  | entry {es : List (String × Value)} {e : String × Value} (mem : e ∈ es)
      (inside : StandsIn w e.2) : StandsIn w (.table es)

/-! ## What is shown for a value -/

mutual

theorem shownAs_plain (v : Value) : v.ShownAs v.plain := by
  cases v with
  | date d => exact .literal d
  | list vs => exact .list (forall₂_plainAll vs)
  | _ => exact .same (fun d h => nomatch h) (fun ⟨vs, h⟩ => nomatch h)

theorem forall₂_plainAll (vs : List Value) : List.Forall₂ ShownAs vs (plainAll vs) := by
  match vs with
  | [] => exact .nil
  | v :: vs => exact .cons (shownAs_plain v) (forall₂_plainAll vs)

end

mutual

theorem eq_plain_of_shownAs (v : Value) {w : Value} (h : v.ShownAs w) : w = v.plain := by
  cases v with
  | list vs =>
    cases h with
    | list items => exact congrArg list (eq_plainAll_of_forall₂ vs items)
    | same hdate hlist => exact absurd ⟨vs, rfl⟩ hlist
  | date d =>
    cases h with
    | literal d => rfl
    | same hdate hlist => exact absurd rfl (hdate d)
  | _ =>
    cases h with
    | same hdate hlist => rfl

theorem eq_plainAll_of_forall₂ (vs : List Value) {ws : List Value}
    (h : List.Forall₂ ShownAs vs ws) : ws = plainAll vs := by
  match vs with
  | [] =>
    cases h with
    | nil => rfl
  | v :: vs =>
    cases h with
    | cons head tail =>
      exact congrArg₂ List.cons (eq_plain_of_shownAs v head) (eq_plainAll_of_forall₂ vs tail)

end

theorem shownAs_iff {v w : Value} : v.ShownAs w ↔ w = v.plain := by
  constructor
  · intro h
    exact eq_plain_of_shownAs v h
  · rintro rfl
    exact shownAs_plain v

/-! ## Dates that are left -/

theorem mem_plainAll {vs : List Value} {w : Value} (h : w ∈ plainAll vs) :
    ∃ v ∈ vs, w = v.plain := by
  induction vs with
  | nil => cases h
  | cons v vs ih =>
    rcases List.mem_cons.mp h with rfl | h
    · exact ⟨v, List.mem_cons_self, rfl⟩
    · obtain ⟨u, hu, rfl⟩ := ih h
      exact ⟨u, List.mem_cons_of_mem _ hu, rfl⟩

/-- A tuple or a table stands in the value. -/
def HoldsClosed (v : Value) : Prop :=
  (∃ vs, StandsIn (.tuple vs) v) ∨ ∃ es, StandsIn (.table es) v

theorem HoldsClosed.of_mem {v : Value} {vs : List Value} (h : v.HoldsClosed) (hmem : v ∈ vs) :
    (list vs).HoldsClosed :=
  h.imp (fun ⟨ws, hws⟩ => ⟨ws, .item hmem hws⟩) fun ⟨es, hes⟩ => ⟨es, .item hmem hes⟩

/-- A date is left in what is shown for a value only if a tuple or a table stands in the value. -/
theorem holdsClosed_of_standsIn_plain (v : Value) {d : DateLiteral}
    (h : StandsIn (.date d) v.plain) : v.HoldsClosed := by
  match v with
  | tuple vs => exact Or.inl ⟨vs, .here⟩
  | table es => exact Or.inr ⟨es, .here⟩
  | list vs =>
    cases h with
    | item mem inside =>
      obtain ⟨u, hu, rfl⟩ := mem_plainAll mem
      exact (holdsClosed_of_standsIn_plain u inside).of_mem hu
  | null | bool _ | int _ | float _ | text _ | date _ | stamp _ => cases h

theorem IsScalar.not_holdsClosed {v : Value} (h : v.IsScalar) : ¬ v.HoldsClosed := by
  rintro (⟨vs, hin⟩ | ⟨es, hin⟩) <;>
  · cases h with
    | null => cases hin
    | textual h => cases h <;> cases hin
    | number h => cases h <;> cases hin

theorem IsFlat.not_holdsClosed {v : Value} (h : v.IsFlat) : ¬ v.HoldsClosed := by
  cases h with
  | scalar h => exact h.not_holdsClosed
  | list hitems =>
    rintro (⟨vs, hin⟩ | ⟨es, hin⟩)
    · cases hin with
      | item mem inside => exact (hitems _ mem).not_holdsClosed (Or.inl ⟨vs, inside⟩)
    · cases hin with
      | item mem inside => exact (hitems _ mem).not_holdsClosed (Or.inr ⟨es, inside⟩)

/-- No date stands in what is shown for a value of a note. -/
theorem IsFlat.not_standsIn_plain {v : Value} (h : v.IsFlat) (d : DateLiteral) :
    ¬ StandsIn (.date d) v.plain := fun hin => h.not_holdsClosed (holdsClosed_of_standsIn_plain v hin)

end Value

end NoteQuery
