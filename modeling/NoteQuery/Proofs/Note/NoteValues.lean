import NoteQuery.Note.Document
import NoteQuery.Proofs.Note.BodyFields
import NoteQuery.Proofs.Value.Comparators

/-!
# The values of notes

Whatever text a note holds, every field of its record is flat: a scalar or a list of scalars, with
well-formed dates only and without `nan`. So what is proved of the order of flat values holds of all
fields of notes.

* `Scalar.read_cases`: the kinds of scalars, in the order in which they are tried.
* `Scalar.isScalar_read`: what a text is read as.
* `Body.Section.isFlat_value`, `Document.isFlat_get`: sections and records.
-/

namespace NoteQuery

theorem Binary64.ofUnits_ne_nan (negative : Bool) (units : Nat) : ofUnits negative units ≠ nan := by
  unfold ofUnits
  split <;> simp

theorem Binary64.ofDecimal_ne_nan (negative : Bool) (digits : Nat) (exponent : Int) :
    ofDecimal negative digits exponent ≠ nan := by
  unfold ofDecimal
  dsimp only
  split
  · simp
  · split
    · simp
    · split
      · simp
      · split <;> exact ofUnits_ne_nan _ _

namespace Scalar

/-! ## What a scalar can be -/

theorem word?_cases {cs : List Char} {v : Value} (h : word? cs = some v) :
    v = .null ∨ ∃ b, v = .bool b := by
  unfold word? at h
  split at h
  · cases h
    exact Or.inl rfl
  · split at h
    · cases h
      exact Or.inr ⟨true, rfl⟩
    · split at h
      · cases h
        exact Or.inr ⟨false, rfl⟩
      · cases h

theorem integer_cases (negative : Bool) (digits : List Char) :
    (digits.length ≤ Text.digitLimit ∧ ∃ i : Int,
      integer negative digits = .int i ∧ i.natAbs = Text.natOfDigits digits) ∨
    ∃ x, integer negative digits = .float x ∧ x ≠ .nan := by
  unfold integer
  dsimp only
  split
  · rename_i hlimit
    exact Or.inl ⟨hlimit, _, rfl, by split <;> simp⟩
  · exact Or.inr ⟨_, rfl, Binary64.ofDecimal_ne_nan _ _ _⟩

theorem number?_cases {cs : List Char} {v : Value} (h : number? cs = some v) :
    (∃ negative digits, (∀ c ∈ digits, c.isDigit) ∧ v = integer negative digits) ∨
      ∃ x, v = .float x ∧ x ≠ .nan := by
  unfold number? at h
  dsimp only at h
  split at h
  · split at h
    · cases h
    · cases h
      exact Or.inl ⟨_, _, fun c hc => List.all_eq_true.mp List.all_takeWhile c hc, rfl⟩
  · split at h
    · cases h
      exact Or.inr ⟨_, rfl, Binary64.ofDecimal_ne_nan _ _ _⟩
    · cases h

/-- The kinds of a scalar, in the order in which they are tried. -/
theorem read_cases (text : List Char) :
    (∃ v, word? (Text.trim text) = some v ∧ read text = v) ∨
      (∃ v, number? (Text.trim text) = some v ∧ read text = v) ∨
      (∃ d, date? (Text.trim text) = some d ∧ read text = .date d) ∨
      read text = .text (String.ofList ((unquote? (Text.trim text)).getD (Text.trim text))) := by
  unfold read
  dsimp only
  split
  · rename_i v hword
    exact Or.inl ⟨v, hword, rfl⟩
  · split
    · rename_i v hnumber
      exact Or.inr (Or.inl ⟨v, hnumber, rfl⟩)
    · split
      · rename_i d hdate
        exact Or.inr (Or.inr (Or.inl ⟨d, hdate, rfl⟩))
      · exact Or.inr (Or.inr (Or.inr rfl))

/-! ## Scalars -/

theorem isNumber_of_number? {cs : List Char} {v : Value} (h : number? cs = some v) :
    v.IsNumber := by
  rcases number?_cases h with ⟨negative, digits, -, rfl⟩ | ⟨x, rfl, hx⟩
  · rcases integer_cases negative digits with ⟨-, i, hint, -⟩ | ⟨x, hfloat, hx⟩
    · exact hint ▸ .int i
    · exact hfloat ▸ .float hx
  · exact .float hx

theorem isScalar_read (cs : List Char) : (read cs).IsScalar := by
  rcases read_cases cs with ⟨v, hword, hread⟩ | ⟨v, hnumber, hread⟩ | ⟨d, hdate, hread⟩ | hread
  · rcases word?_cases hword with rfl | ⟨b, rfl⟩
    · exact hread ▸ .null
    · exact hread ▸ .textual (.bool b)
  · exact hread ▸ .number (isNumber_of_number? hnumber)
  · exact hread ▸ .textual (.date (isWellFormed_of_date? hdate).1)
  · exact hread ▸ .textual (.text _)

theorem isWellFormed_of_read {cs : List Char} {d : DateLiteral} (h : read cs = .date d) :
    d.IsWellFormed := by
  have hscalar := isScalar_read cs
  rw [h] at hscalar
  exact (Value.IsFlat.scalar hscalar).isWellFormed

theorem isScalar_of_mem_readList? {cs : List Char} {vs : List Value} (h : readList? cs = some vs) :
    ∀ v ∈ vs, v.IsScalar := by
  intro v hv
  unfold readList? at h
  split at h
  · split at h
    · cases h
      obtain ⟨item, -, rfl⟩ := List.mem_map.mp hv
      exact isScalar_read item
    · cases h
  · cases h

end Scalar

theorem Body.Section.isFlat_value (s : Section) : s.value.IsFlat := by
  unfold value
  split
  · refine .list fun v hv => ?_
    obtain ⟨i, -, rfl⟩ := List.mem_map.mp hv
    exact Scalar.isScalar_read i.text
  · split
    · rename_i vs hlist
      exact .list (Scalar.isScalar_of_mem_readList? hlist)
    · exact .scalar (Scalar.isScalar_read s.text)

theorem Body.isFlat_of_get?_fields {body : List Char} {name : String} {v : Value}
    (h : (fields body).get? name = some v) : v.IsFlat := by
  obtain ⟨_, s, _, -, -, rfl, -⟩ := get?_entries_iff.mp h
  exact s.isFlat_value

/-- Every field of every note is flat. -/
theorem Document.isFlat_get (content path field : String) :
    ((record content path).get field).IsFlat := by
  rw [Record.get, Record.get?, record, fields]
  split
  · rename_i body _
    cases hget : (Body.fields body).get? field with
    | none => exact .scalar .null
    | some v => exact Body.isFlat_of_get?_fields hget
  · exact .scalar .null

end NoteQuery
