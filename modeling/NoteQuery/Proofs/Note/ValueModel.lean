import NoteQuery.Proofs.Condition.ExpressionForms
import NoteQuery.Proofs.Note.WritableNotes

/-!
# The value model

What a note can hold at all: scalars of six kinds and flat lists of them. Integers have no more
digits than the limit, floats are numbers, texts are of one line and dates are well-formed. Whatever
a document says, its record stays within that, under names of word characters; and so does the target
of every condition that an expression of one line writes.

* `Value.IsNoteScalar`, `Value.IsNoteValue`: the values.
* `Scalar.isNoteScalar_read`: what one line is read as.
* `Body.Section.FromLines.isNoteValue`: the value of a section whose texts are of one line.
* `isNoteValue_of_read`: records of documents and targets of conditions.
-/

namespace NoteQuery

/-- The scalars of notes. -/
inductive Value.IsNoteScalar : Value → Prop
  | null : IsNoteScalar .null
  | bool (b : Bool) : IsNoteScalar (.bool b)
  | int {i : Int} (short : (Nat.toDigits 10 i.natAbs).length ≤ Text.digitLimit) :
      IsNoteScalar (.int i)
  | float {x : Binary64} (number : x ≠ .nan) : IsNoteScalar (.float x)
  | text {s : String} (oneLine : '\n' ∉ s.toList) : IsNoteScalar (.text s)
  | date {d : DateLiteral} (wellFormed : d.IsWellFormed) : IsNoteScalar (.date d)

/-- The values of notes. A list holds scalars only. -/
inductive Value.IsNoteValue : Value → Prop
  | scalar {v : Value} (h : v.IsNoteScalar) : IsNoteValue v
  | list {items : List Value} (h : ∀ v ∈ items, v.IsNoteScalar) : IsNoteValue (.list items)

/-! ## Pieces of texts -/

namespace Text

theorem mem_intercalate_of_mem {sep p : List Char} {ps : List (List Char)} (hp : p ∈ ps) {c : Char}
    (hc : c ∈ p) : c ∈ sep.intercalate ps := by
  induction ps with
  | nil => cases hp
  | cons q qs ih =>
    cases qs with
    | nil =>
      rw [List.mem_singleton.mp hp] at hc
      simpa using hc
    | cons r rs =>
      rw [List.intercalate_cons_cons]
      rcases List.mem_cons.mp hp with rfl | hp
      · exact List.mem_append_left _ (List.mem_append_left _ hc)
      · exact List.mem_append_right _ (ih hp)

theorem mem_of_mem_splitOn {sep c : Char} {cs p : List Char} (hp : p ∈ cs.splitOn sep)
    (hc : c ∈ p) : c ∈ cs := by
  have hmem : c ∈ [sep].intercalate (cs.splitOn sep) := mem_intercalate_of_mem hp hc
  rwa [List.intercalate_splitOn] at hmem

theorem mem_of_mem_commaItems {c : Char} {cs item : List Char} (hitem : item ∈ commaItems cs)
    (hc : c ∈ item) : c ∈ cs := by
  obtain ⟨p, hp, rfl⟩ := List.mem_map.mp (List.mem_filter.mp hitem).1
  exact mem_of_mem_splitOn hp (mem_of_mem_trim hc)

end Text

/-! ## Scalars -/

namespace Scalar

theorem isNoteScalar_integer (negative : Bool) {digits : List Char}
    (hdigits : ∀ c ∈ digits, c.isDigit) : (integer negative digits).IsNoteScalar := by
  have hwritable := isWritable_integer negative hdigits
  rcases integer_cases negative digits with ⟨-, i, hint, -⟩ | ⟨x, hfloat, hx⟩
  · rw [hint] at hwritable ⊢
    exact .int (Value.isWritable_int_iff.mp hwritable)
  · rw [hfloat]
    exact .float hx

theorem mem_of_mem_unquote? {c : Char} {cs inner : List Char} (h : unquote? cs = some inner)
    (hc : c ∈ inner) : c ∈ cs := by
  unfold unquote? at h
  split at h
  · cases h
  · split at h
    · cases h
      exact List.mem_cons_of_mem _ (List.dropLast_subset _ hc)
    · cases h

theorem isNoteScalar_read {text : List Char} (h : '\n' ∉ text) : (read text).IsNoteScalar := by
  -- Only a text can hold a newline, and it holds nothing that was not in the line.
  have htrim : '\n' ∉ Text.trim text := fun hmem => h (Text.mem_of_mem_trim hmem)
  rcases read_cases text with ⟨v, hword, hread⟩ | ⟨v, hnumber, hread⟩ | ⟨d, hdate, hread⟩ | hread
  · rw [hread]
    rcases word?_cases hword with rfl | ⟨b, rfl⟩
    · exact .null
    · exact .bool b
  · rw [hread]
    rcases number?_cases hnumber with ⟨negative, digits, hdigits, rfl⟩ | ⟨x, rfl, hx⟩
    · exact isNoteScalar_integer negative hdigits
    · exact .float hx
  · rw [hread]
    exact .date (isWellFormed_of_date? hdate).1
  · rw [hread]
    refine .text ?_
    rw [String.toList_ofList]
    cases hunquote : unquote? (Text.trim text) with
    | none => exact htrim
    | some inner => exact fun hmem => htrim (mem_of_mem_unquote? hunquote hmem)

theorem isNoteScalar_of_mem_commaItems {text : List Char} (h : '\n' ∉ text) :
    ∀ v ∈ (Text.commaItems text).map read, v.IsNoteScalar := by
  intro v hv
  obtain ⟨item, hitem, rfl⟩ := List.mem_map.mp hv
  exact isNoteScalar_read fun hmem => h (Text.mem_of_mem_commaItems hitem hmem)

theorem isNoteScalar_of_mem_readList? {text : List Char} (h : '\n' ∉ text) {vs : List Value}
    (hvs : readList? text = some vs) : ∀ v ∈ vs, v.IsNoteScalar := by
  obtain ⟨inner, htrim, rfl⟩ := (readList?_eq_some_iff h).mp hvs
  apply isNoteScalar_of_mem_commaItems
  intro hmem
  apply h
  apply Text.mem_of_mem_trim
  rw [htrim]
  exact List.mem_cons_of_mem _ (List.mem_append_left _ hmem)

end Scalar

/-! ## Sections -/

namespace Body

theorem item_mem_of_sections {ls : List Line} {i : Item} (h : i ∈ (sections ls).1) :
    .item i ∈ ls := by
  induction ls with
  | nil => cases h
  | cons l ls ih =>
    cases l with
    | key n t => cases h
    | item j =>
      rcases List.mem_cons.mp h with rfl | h
      · exact List.mem_cons_self
      · exact List.mem_cons_of_mem _ (ih h)
    | other => exact List.mem_cons_of_mem _ (ih h)

theorem item_mem_of_section {ls : List Line} {s : Section} (hs : s ∈ (sections ls).2) {i : Item}
    (hi : i ∈ s.items) : .item i ∈ ls := by
  obtain ⟨before, after, hsections⟩ := List.append_of_mem hs
  obtain ⟨front, tail, rfl, hitems, -⟩ := exists_key_of_sections hsections
  rw [hitems] at hi
  exact List.mem_append_right _ (List.mem_cons_of_mem _ (item_mem_of_sections hi))

theorem IsItemLine.newline_notMem {line text : List Char} (h : IsItemLine line text)
    (hline : '\n' ∉ line) : '\n' ∉ text := by
  obtain ⟨indent, gap, rfl, -⟩ := h
  intro hmem
  exact hline (by simp [hmem])

/-- The name of the section is a field name, and its texts are of one line each. -/
structure Section.FromLines (s : Section) : Prop where
  name : Expression.IsField s.name
  text : '\n' ∉ s.text
  items : ∀ i ∈ s.items, '\n' ∉ i.text

theorem fromLines_of_mem_parse {body : List Char} {s : Section} (h : s ∈ (parse body).2) :
    s.FromLines := by
  obtain ⟨l, hl, hkey⟩ := List.mem_map.mp (key_mem_of_section h)
  obtain ⟨text, hline, htext⟩ := ofText_eq_key_iff.mp hkey
  refine ⟨⟨hline.ne_nil, hline.word⟩, ?_, fun i hi => ?_⟩
  · have hnone := hline.newline_notMem (Text.newline_notMem_of_mem_lines hl)
    rw [htext]
    exact fun hmem => hnone ((List.dropWhile_sublist _).mem hmem)
  · obtain ⟨k, hk, hitem⟩ := List.mem_map.mp (item_mem_of_section h hi)
    exact (isItemLine_of_ofText hitem).newline_notMem (Text.newline_notMem_of_mem_lines hk)

theorem Section.FromLines.isNoteValue {s : Section} (h : s.FromLines) : s.value.IsNoteValue := by
  unfold value
  split
  · refine .list fun v hv => ?_
    obtain ⟨i, hi, rfl⟩ := List.mem_map.mp hv
    exact Scalar.isNoteScalar_read (h.items i hi)
  · split
    · rename_i vs hlist
      exact .list (Scalar.isNoteScalar_of_mem_readList? h.text hlist)
    · exact .scalar (Scalar.isNoteScalar_read h.text)

theorem isNoteValue_of_mem_fields {body : List Char} {name : String} {v : Value}
    (h : (name, v) ∈ (fields body).entries) : Expression.IsField name.toList ∧ v.IsNoteValue := by
  obtain ⟨before, s, after, hsections, hname, rfl, -⟩ :=
    get?_entries_iff.mp (OrderedMap.get?_eq_some_iff.mpr h)
  have hs : s.FromLines := fromLines_of_mem_parse (by rw [hsections]; simp)
  exact ⟨hname ▸ hs.name, hs.isNoteValue⟩

end Body

/-! ## Targets of conditions -/

/-- The value that a condition asks for or compares with. A predicate has none. -/
def Condition.target? : Condition → Option Value
  | literal expected => some expected
  | operator _ target => some target
  | predicate _ => none

namespace Expression

/-- The text of the value among the parts, if there is one. -/
def Parts.raw? : Parts → Option (List Char)
  | named _ _ raw => raw
  | signed _ _ raw => some raw

theorem Form.newline_notMem {cs : List Char} {parts : Parts} (h : Form cs parts)
    (hline : '\n' ∉ cs) : ∀ raw ∈ parts.raw?, '\n' ∉ raw := by
  cases h with
  | bare hfield hop => simp [Parts.raw?]
  | valued hfield =>
    rintro raw ⟨⟩ hmem
    exact hline (by simp [hmem])
  | signed hfield hgap hspace hsign =>
    rintro raw ⟨⟩ hmem
    exact hline (by simp [hmem])

theorem exists_operator_of_ofValue {name : String} {raw : List Char} {c : Condition}
    (h : Condition.ofValue (.table [("op", .text name), ("value", Scalar.read raw)]) = .ok c) :
    ∃ op, c = .operator op (Scalar.read raw) := by
  cases hop : Operator.ofName name with
  | ok op =>
    rw [ofValue_operator hop] at h
    cases h
    exact ⟨op, rfl⟩
  | error e =>
    have hlookup : Value.lookup? "op" [("op", .text name), ("value", Scalar.read raw)] =
        some (.text name) := rfl
    simp only [Condition.ofValue, hlookup, Operator.ofValue_text, hop] at h
    cases h

theorem Parts.Means.isNoteValue {parts : Parts} {c : Condition} (h : parts.Means c)
    (hraw : ∀ raw ∈ parts.raw?, '\n' ∉ raw) : ∃ v, c.target? = some v ∧ v.IsNoteValue := by
  cases h with
  | unary hop => exact ⟨.null, rfl, .scalar .null⟩
  | items => exact ⟨_, rfl, .list (Scalar.isNoteScalar_of_mem_commaItems (hraw _ rfl))⟩
  | named hop hwithin hc =>
    obtain ⟨op, rfl⟩ := exists_operator_of_ofValue hc
    exact ⟨_, rfl, .scalar (Scalar.isNoteScalar_read (hraw _ rfl))⟩
  | equality => exact ⟨_, rfl, .scalar (Scalar.isNoteScalar_read (hraw _ rfl))⟩
  | signed hsign hc =>
    obtain ⟨op, rfl⟩ := exists_operator_of_ofValue hc
    exact ⟨_, rfl, .scalar (Scalar.isNoteScalar_read (hraw _ rfl))⟩

/-- The condition that is read from an expression is the one that its parts mean. -/
theorem exists_means_of_parse {expression field : String} {c : Condition}
    (hline : '\n' ∉ expression.toList) (h : parse expression = .ok (field, c)) :
    ∃ parts, Form expression.toList parts ∧ parts.Means c := by
  unfold parse at h
  split at h
  · rename_i parts hparts
    have hform := form_of_read hparts hline h
    obtain ⟨d, hmeans, hread⟩ := hform.exists_means expression
    -- What was cut off has no blanks in front already, so what was read is what the form means.
    have htight : parts = parts.tight := by
      have heq := hform.parts?_eq hline
      rwa [hparts, Option.some.injEq] at heq
    rw [← htight, h] at hread
    cases hread
    exact ⟨parts, hform, hmeans⟩
  · cases h

end Expression

/-- Every entry of the record of a document has a field name and a value of the value model, no two
entries have one name, and every condition that an expression of one line writes has a target in the
value model. -/
theorem isNoteValue_of_read :
    (∀ content path, (Document.record content path).fields.keys.Nodup ∧
      ∀ e ∈ (Document.record content path).fields.entries,
        Expression.IsField e.1.toList ∧ e.2.IsNoteValue) ∧
    ∀ expression field c, '\n' ∉ expression.toList → Expression.parse expression = .ok (field, c) →
      ∃ v, c.target? = some v ∧ v.IsNoteValue := by
  refine ⟨fun content path => ⟨OrderedMap.nodup _, ?_⟩, fun expression field c hline hparse => ?_⟩
  · intro e he
    rw [Document.record, Document.fields] at he
    split at he
    · exact Body.isNoteValue_of_mem_fields he
    · cases he
  · obtain ⟨parts, hform, hmeans⟩ := Expression.exists_means_of_parse hline hparse
    exact hmeans.isNoteValue (hform.newline_notMem hline)

/-- Brackets inside an item and inside the values of `in` make no list in a list. -/
theorem isNoteValue_of_read_of_brackets :
    let r := Document.record "---\na:\n- [x, 1]\n---\n" "x.md"
    let expression := "a:in:[x, 2024-01-01"
    ("a", .list [.text "[x, 1]"]) ∈ r.fields.entries ∧
      (Value.list [.text "[x, 1]"]).IsNoteValue ∧
      ∃ c v, Expression.parse expression = .ok ("a", c) ∧ c.target? = some v ∧ v.IsNoteValue := by
  intro r expression
  obtain ⟨hrecords, hexpressions⟩ := isNoteValue_of_read
  have hmem : ("a", .list [.text "[x, 1]"]) ∈ r.fields.entries := List.mem_singleton.mpr rfl
  have hline : '\n' ∉ expression.toList := by decide
  have hparts : Expression.parts? expression.toList =
      some (.named "a".toList Operator.within.name.toList (some "[x, 2024-01-01".toList)) := by
    decide
  have hparse : Expression.parse expression = .ok ("a", .operator .within (.list
      ((Text.commaItems "[x, 2024-01-01".toList).map Scalar.read))) := by
    simp only [Expression.parse, hparts, Expression.Parts.read, String.ofList_toList,
      Operator.ofName_name]
    rfl
  obtain ⟨v, hv, hvalue⟩ := hexpressions _ _ _ hline hparse
  exact ⟨hmem, ((hrecords _ _).2 _ hmem).2, _, v, hparse, hv, hvalue⟩

end NoteQuery
