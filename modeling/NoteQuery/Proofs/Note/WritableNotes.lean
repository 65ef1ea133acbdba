import NoteQuery.Proofs.Note.NoteValues
import NoteQuery.Proofs.Value.Comparability

/-!
# Notes have texts

What is read has a text of its own: an integer of more digits than can be written is read as a float.
So every field of every note can be written.

* `Scalar.isWritable_read`, `Scalar.areWritable_map_read`: what texts are read as.
* `Body.Section.isWritable_value`, `Document.isWritable_get`: sections and records.
-/

namespace NoteQuery

/-! ## Scalars -/

namespace Scalar

theorem isWritable_integer (negative : Bool) {digits : List Char} (hdigits : ∀ c ∈ digits, c.isDigit) :
    (integer negative digits).isWritable := by
  rcases integer_cases negative digits with ⟨hlimit, i, hint, habs⟩ | ⟨x, hfloat, -⟩
  · rw [hint, Value.isWritable_int_iff, habs, Nat.length_toDigits_le_iff (by decide) (by decide)]
    calc Text.natOfDigits digits < 10 ^ digits.length := Text.natOfDigits_lt hdigits
      _ ≤ 10 ^ Text.digitLimit := Nat.pow_le_pow_right (by decide) hlimit
  · rw [hfloat]
    rfl

theorem isWritable_read (cs : List Char) : (read cs).isWritable := by
  rcases read_cases cs with ⟨v, hword, hread⟩ | ⟨v, hnumber, hread⟩ | ⟨d, -, hread⟩ | hread
  · rw [hread]
    rcases word?_cases hword with rfl | ⟨b, rfl⟩ <;> rfl
  · rw [hread]
    rcases number?_cases hnumber with ⟨negative, digits, hdigits, rfl⟩ | ⟨x, rfl, -⟩
    · exact isWritable_integer negative hdigits
    · rfl
  · rw [hread]
    rfl
  · rw [hread]
    rfl

theorem areWritable_map_read (texts : List (List Char)) : Value.areWritable (texts.map read) := by
  rw [Value.areWritable_iff, List.forall_mem_map]
  exact fun cs _ => isWritable_read cs

theorem areWritable_of_readList? {cs : List Char} {vs : List Value} (h : readList? cs = some vs) :
    Value.areWritable vs := by
  unfold readList? at h
  split at h
  · split at h
    · cases h
      exact areWritable_map_read _
    · cases h
  · cases h

end Scalar

/-! ## Fields of notes -/

theorem Body.Section.isWritable_value (s : Section) : s.value.isWritable := by
  unfold value
  split
  · rw [Value.isWritable, Value.areWritable_iff, List.forall_mem_map]
    exact fun i _ => Scalar.isWritable_read i.text
  · split
    · rename_i vs hlist
      exact Scalar.areWritable_of_readList? hlist
    · exact Scalar.isWritable_read s.text

theorem Body.isWritable_of_get?_fields {body : List Char} {name : String} {v : Value}
    (h : (fields body).get? name = some v) : v.isWritable := by
  obtain ⟨_, s, _, -, -, rfl, -⟩ := get?_entries_iff.mp h
  exact s.isWritable_value

/-- Every field of every note can be written. -/
theorem Document.isWritable_get (content path field : String) :
    ((record content path).get field).isWritable := by
  rw [Record.get, Record.get?, record, fields]
  split
  · rename_i body _
    cases hget : (Body.fields body).get? field with
    | none => rfl
    | some v => exact Body.isWritable_of_get?_fields hget
  · rfl

end NoteQuery
