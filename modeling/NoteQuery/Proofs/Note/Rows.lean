import NoteQuery.Proofs.Note.NoteValues
import NoteQuery.Proofs.Note.ShownValues

/-!
# What rows keep of documents

The row of a record has the fields of the record, in their order, with literals in place of dates, and
the identity of the file. That stands under the name `_file`, which a document may give to a field as
well: the identity then takes the place of the field. All other fields are kept.

* `Record.get?_row`, `Record.keys_row`: the fields of a row and their order.
* `Record.not_standsIn_row`: rows hold no dates.
* `Document.not_row_keeps_every_field`, `Document.row_keeps_fields`: the rows of documents.
-/

namespace NoteQuery

namespace Value

/-- What is shown for a value of a note is no table. -/
theorem IsFlat.plain_ne_table {v : Value} (h : v.IsFlat) (es : List (String × Value)) :
    v.plain ≠ .table es := by
  intro htable
  cases v with
  | table entries => exact h.not_holdsClosed (Or.inr ⟨entries, .here⟩)
  | _ => cases htable

end Value

theorem FileIdentity.not_standsIn_toValue (file : FileIdentity) (d : DateLiteral) :
    ¬ Value.StandsIn (.date d) file.toValue := by
  have htext (s : Option String) : ¬ Value.StandsIn (.date d) (textOrNull s) := by
    intro hin
    cases s <;> cases hin
  intro hin
  cases hin with
  | entry mem inside =>
    simp only [List.mem_cons, List.not_mem_nil, or_false] at mem
    rcases mem with rfl | rfl | rfl
    · exact htext _ inside
    · exact htext _ inside
    · exact htext _ inside

/-! ## Rows -/

namespace Record

variable {name : String}

theorem get?_row_file (r : Record) : r.row.get? "_file" = some r.file.toValue := by
  rw [row, OrderedMap.get?_insert, if_pos rfl]

theorem get?_row (h : name ≠ "_file") (r : Record) :
    r.row.get? name = (r.get? name).map Value.plain := by
  rw [row, OrderedMap.get?_insert, if_neg h, OrderedMap.get?_map, get?]

/-- The identity of the file comes last, unless a field has its name. -/
theorem keys_row (r : Record) : r.row.keys =
    if "_file" ∈ r.fields.keys then r.fields.keys else r.fields.keys ++ ["_file"] := by
  have hkeys : (r.fields.map Value.plain).keys = r.fields.keys := by
    rw [OrderedMap.keys, OrderedMap.map, List.map_map]
    rfl
  rw [row, OrderedMap.keys_insert, hkeys]

/-- The row shows the values of all fields. -/
def KeptInRow (r : Record) : Prop :=
  ∀ name v, r.get? name = some v → ∃ w, r.row.get? name = some w ∧ v.ShownAs w

theorem shownAs_of_get? {r : Record} {v : Value} (hname : name ≠ "_file")
    (h : r.get? name = some v) : ∃ w, r.row.get? name = some w ∧ v.ShownAs w := by
  refine ⟨v.plain, ?_, Value.shownAs_plain v⟩
  rw [get?_row hname, h, Option.map_some]

/-- The fields are kept unless one of them has the name of the identity. -/
theorem keptInRow_iff {r : Record} (hflat : ∀ name v, r.get? name = some v → v.IsFlat) :
    r.KeptInRow ↔ "_file" ∉ r.fields.keys := by
  constructor
  · intro hkept hmem
    obtain ⟨v, hv⟩ := OrderedMap.mem_keys_iff.mp hmem
    obtain ⟨w, hw, hshown⟩ := hkept "_file" v hv
    rw [get?_row_file, Option.some.injEq] at hw
    have hplain := (Value.shownAs_iff.mp hshown).symm.trans hw.symm
    exact (hflat "_file" v hv).plain_ne_table _ hplain
  · intro hmem name v hv
    refine shownAs_of_get? ?_ hv
    rintro rfl
    exact hmem (OrderedMap.mem_keys_iff.mpr ⟨v, hv⟩)

theorem not_standsIn_row {r : Record} (hflat : ∀ name v, r.get? name = some v → v.IsFlat)
    (d : DateLiteral) : ¬ Value.StandsIn (.date d) (.table r.row.entries) := by
  intro hin
  cases hin with
  | @entry _ e mem inside =>
    have hget : r.row.get? e.1 = some e.2 := OrderedMap.get?_eq_some_iff.mpr mem
    by_cases hname : e.1 = "_file"
    · rw [hname, get?_row_file, Option.some.injEq] at hget
      rw [← hget] at inside
      exact r.file.not_standsIn_toValue d inside
    · rw [get?_row hname, Option.map_eq_some_iff] at hget
      obtain ⟨v, hv, hplain⟩ := hget
      rw [← hplain] at inside
      exact (hflat _ v hv).not_standsIn_plain d inside

end Record

/-! ## Documents -/

namespace Document

theorem isFlat_of_get? {content path name : String} {v : Value}
    (h : (record content path).get? name = some v) : v.IsFlat := by
  have hflat := isFlat_get content path name
  rw [Record.get, h] at hflat
  exact hflat

/-- A field with the name `_file` is replaced by the identity of the file. -/
theorem not_row_keeps_every_field :
    let r := record "---\n_file: x\n---\n" "x.md"
    r.get? "_file" = some (.text "x") ∧ ¬ r.KeptInRow ∧
      ¬ ∀ content path, (record content path).KeptInRow := by
  intro r
  have hget : r.get? "_file" = some (.text "x") := rfl
  have hkept : ¬ r.KeptInRow := by
    rw [Record.keptInRow_iff fun name v => isFlat_of_get?, not_not]
    exact OrderedMap.mem_keys_iff.mpr ⟨_, hget⟩
  exact ⟨hget, hkept, fun hall => hkept (hall _ _)⟩

/-- The row of a document has the fields of the document in their order, with literals in place of
dates, and the identity of the file under `_file`: at the end, or in the place of a field of that name.
No date stands anywhere in it. All fields are kept if and only if none has that name, and the others
always are. -/
theorem row_keeps_fields (content path : String) :
    let r := record content path
    (∀ name v, name ≠ "_file" → r.get? name = some v →
      ∃ w, r.row.get? name = some w ∧ v.ShownAs w) ∧
    r.row.keys =
      (if "_file" ∈ r.fields.keys then r.fields.keys else r.fields.keys ++ ["_file"]) ∧
    (∃ name title, r.file = ⟨some path, some name, some title⟩ ∧
      r.row.get? "_file" =
        some (.table [("path", .text path), ("name", .text name), ("title", .text title)])) ∧
    (∀ d, ¬ Value.StandsIn (.date d) (.table r.row.entries)) ∧
    (r.KeptInRow ↔ "_file" ∉ r.fields.keys) := by
  intro r
  have hflat (name : String) (v : Value) (h : r.get? name = some v) : v.IsFlat := isFlat_of_get? h
  refine ⟨?_, r.keys_row, ?_, Record.not_standsIn_row hflat, Record.keptInRow_iff hflat⟩
  · intro name v hname hv
    exact Record.shownAs_of_get? hname hv
  · exact ⟨_, _, rfl, r.get?_row_file⟩

/-- The list of dates under `days` is kept, the field `_file` in front of it is not. -/
theorem row_keeps_fields_of_days :
    let r := record "---\n_file: x\ndays: [2024-01-02, 7]\n---\n" "n/x.md"
    let days : Value := .list [.date ⟨2024, 1, 2, "2024-01-02"⟩, .int 7]
    "days" ≠ "_file" ∧ r.get? "days" = some days ∧
      r.row.get? "days" = some (.list [.text "2024-01-02", .int 7]) ∧
      r.row.keys = ["_file", "days"] ∧ ¬ r.KeptInRow := by
  intro r days
  have hne : "days" ≠ "_file" := by decide
  have hdays : r.get? "days" = some days := rfl
  have hkeys : r.fields.keys = ["_file", "days"] := rfl
  have hmem : "_file" ∈ r.fields.keys := hkeys ▸ List.mem_cons_self
  obtain ⟨hkept, hrow, -, -, hiff⟩ := row_keeps_fields
    "---\n_file: x\ndays: [2024-01-02, 7]\n---\n" "n/x.md"
  obtain ⟨w, hw, hshown⟩ := hkept "days" days hne hdays
  refine ⟨hne, hdays, ?_, ?_, fun hall => hiff.mp hall hmem⟩
  · rw [hw, Value.shownAs_iff.mp hshown]
    rfl
  · rw [hrow, if_pos hmem, hkeys]

end Document

end NoteQuery
