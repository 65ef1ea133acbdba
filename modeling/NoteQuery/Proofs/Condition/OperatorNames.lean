import NoteQuery.Condition.Expression

/-!
# The names of operators

Which texts name an operator. Each operator has one name, and some have signs besides. A value names
an operator by its text, and so it names none if it cannot be written.

* `ofName_eq_ok_iff`, `exists_ofName_iff`: the texts that name an operator.
* `ofName_eq_error_iff`: every other text is refused as it stands.
* `ofValue_text`, `ofValue_eq_error_iff`: values.
-/

namespace NoteQuery.Operator

theorem mem_all (op : Operator) : op ∈ all := by
  cases op <;> decide

theorem name_injective {op other : Operator} (h : op.name = other.name) : op = other := by
  revert h
  cases op <;> cases other <;> decide

theorem lookup_signs_name (op : Operator) : signs.lookup op.name = none := by
  cases op <;> decide

theorem find?_all_eq_some_iff {text : String} {op : Operator} :
    all.find? (·.name == text) = some op ↔ text = op.name := by
  constructor
  · intro h
    have hname := List.find?_some h
    exact (eq_of_beq hname).symm
  · rintro rfl
    have hsome : (all.find? (·.name == op.name)).isSome :=
      List.find?_isSome.mpr ⟨op, mem_all op, beq_self_eq_true _⟩
    obtain ⟨other, hother⟩ := Option.isSome_iff_exists.mp hsome
    have hname := List.find?_some hother
    rw [hother, name_injective (eq_of_beq hname)]

/-- A text names an operator as its sign or as its name. -/
theorem ofName_eq_ok_iff {text : String} {op : Operator} :
    ofName text = .ok op ↔ signs.lookup text = some op ∨ text = op.name := by
  unfold ofName
  constructor
  · intro h
    split at h
    · rename_i other hsign
      cases h
      exact Or.inl hsign
    · split at h
      · rename_i other hname
        cases h
        exact Or.inr (find?_all_eq_some_iff.mp hname)
      · cases h
  · rintro (hsign | rfl)
    · rw [hsign]
    · rw [lookup_signs_name, find?_all_eq_some_iff.mpr rfl]

@[simp] theorem ofName_name (op : Operator) : ofName op.name = .ok op :=
  ofName_eq_ok_iff.mpr (Or.inr rfl)

/-- Whether a text is the name or a sign of an operator. -/
def IsKnown (text : String) : Prop := text ∈ signs.map Prod.fst ∨ text ∈ all.map name

theorem exists_ofName_iff {text : String} : (∃ op, ofName text = .ok op) ↔ IsKnown text := by
  have hsigns : (∃ op, signs.lookup text = some op) ↔ text ∈ signs.map Prod.fst := by
    rw [← Option.isSome_iff_exists, List.lookup_isSome_iff, List.mem_map]
    simp only [beq_iff_eq, eq_comm (a := text)]
  have hnames : (∃ op, text = name op) ↔ text ∈ all.map name := by
    rw [List.mem_map]
    exact exists_congr fun op => ⟨fun h => ⟨mem_all op, h.symm⟩, fun h => h.2.symm⟩
  rw [IsKnown, ← hsigns, ← hnames, ← exists_or]
  exact exists_congr fun op => ofName_eq_ok_iff

theorem eq_unknownOperator {text : String} {e : ConditionError} (h : ofName text = .error e) :
    e = .unknownOperator text := by
  unfold ofName at h
  split at h
  · cases h
  · split at h
    · cases h
    · cases h
      rfl

/-- A text that is no name and no sign is refused with a message that shows it. -/
theorem ofName_eq_error_iff {text : String} {e : ConditionError} :
    ofName text = .error e ↔ e = .unknownOperator text ∧ ¬ IsKnown text := by
  rw [← exists_ofName_iff]
  constructor
  · intro h
    refine ⟨eq_unknownOperator h, ?_⟩
    rintro ⟨op, hop⟩
    rw [h] at hop
    cases hop
  · rintro ⟨rfl, hunknown⟩
    cases h : ofName text with
    | ok op => exact absurd ⟨op, h⟩ hunknown
    | error e => rw [eq_unknownOperator h]

/-! ## Values -/

theorem ofValue_text (text : String) : ofValue (.text text) = ofName text := by
  show ofName (String.ofList text.toList) = ofName text
  rw [String.ofList_toList]

/-- The value names no operator: its text is no name, or it has no text. The error tells which. -/
inductive Misnames : Value → ConditionError → Prop
  | unknown {v : Value} (writable : v.isWritable) (unknown : ¬ IsKnown v.bareText) :
      Misnames v (.unknownOperator v.bareText)
  | unwritable {v : Value} (unwritable : v.isWritable = false) : Misnames v .hugeInteger

theorem ofValue_eq_error_iff {v : Value} {e : ConditionError} :
    ofValue v = .error e ↔ Misnames v e := by
  constructor
  · intro h
    rw [ofValue] at h
    split at h
    · rename_i hwritable
      obtain ⟨rfl, hunknown⟩ := ofName_eq_error_iff.mp h
      exact .unknown hwritable hunknown
    · rename_i hwritable
      cases h
      exact .unwritable (Bool.not_eq_true _ ▸ hwritable)
  · rintro (⟨hwritable, hunknown⟩ | hunwritable)
    · rw [ofValue, if_pos hwritable, ofName_eq_error_iff]
      exact ⟨rfl, hunknown⟩
    · rw [ofValue, hunwritable]
      rfl

end NoteQuery.Operator
