import NoteQuery.Proofs.Note.Blocks
import NoteQuery.Proofs.Note.BodyFields
import NoteQuery.Proofs.Note.Draft

/-!
# Reading what was written

A document that is written from a draft is read as the record of the draft: the identity of the
path, and the fields of the draft with their values in their order, whatever the layout of the
lists, the texts between the quotes and the text behind the block.

* `Atom.read_write`: scalars.
* `Entry.exists_key_line`: the lines of an entry are a key line that gives its value.
* `block?_write`: the body of the document is the body of the draft.
* `record_write`: documents.
-/

namespace NoteQuery.Draft

/-! ## Scalars -/

theorem Atom.read_write (a : Atom) : Scalar.read a.write = a.value := by
  cases a with
  | null => rfl
  | bool b => cases b <;> rfl
  | int i short => exact Scalar.read_intChars short
  | text s oneLine =>
    have := Scalar.read_quoted (Or.inl rfl) s.toList
    rwa [String.ofList_toList] at this
  | date d wellFormed => exact Scalar.read_raw wellFormed

/-- A character that means nothing to the layout: no blank, no comma and no opening bracket. -/
def isInked (c : Char) : Bool := !Text.isBlank c && c != ',' && c != '['

theorem isInked_iff {c : Char} : isInked c ↔ Text.isBlank c = false ∧ c ≠ ',' ∧ c ≠ '[' := by
  simp [isInked, and_assoc]

theorem isInked_of_digit {c : Char} (h : c = '-' ∨ c.isDigit) : isInked c := by
  rcases h with rfl | h
  · rfl
  · exact isInked_iff.mpr ⟨Text.isBlank_of_isDigit h, Scalar.ne_of_isDigit h (by decide),
      Scalar.ne_of_isDigit h (by decide)⟩

/-- Only texts are written with characters that mean something to the layout. -/
theorem Atom.text_or_inked (a : Atom) :
    (∃ s oneLine, a = .text s oneLine) ∨ (a.write ≠ [] ∧ ∀ c ∈ a.write, isInked c) := by
  cases a with
  | null => exact Or.inr ⟨List.cons_ne_nil _ _, List.all_eq_true.mp rfl⟩
  | bool b => cases b <;> exact Or.inr ⟨List.cons_ne_nil _ _, List.all_eq_true.mp rfl⟩
  | int i short =>
    refine Or.inr ⟨fun h => ?_, fun c hc => ?_⟩
    · rw [Atom.write] at h
      have := Scalar.word?_intChars i
      rw [h] at this
      cases this
    · exact isInked_of_digit (Scalar.eq_minus_or_isDigit_of_mem_intChars hc)
  | text s oneLine => exact Or.inl ⟨s, oneLine, rfl⟩
  | date d wellFormed =>
    refine Or.inr ⟨fun h => ?_, fun c hc => ?_⟩
    · obtain ⟨c, cs, hraw, -⟩ := Scalar.exists_cons_raw wellFormed
      rw [Atom.write, hraw] at h
      cases h
    · exact isInked_of_digit (Scalar.eq_hyphen_or_isDigit_of_mem_raw wellFormed hc)

theorem Atom.write_ne_nil (a : Atom) : a.write ≠ [] := by
  rcases a.text_or_inked with ⟨s, oneLine, rfl⟩ | ⟨hne, -⟩
  · exact List.cons_ne_nil _ _
  · exact hne

theorem Atom.trim_write (a : Atom) : Text.trim a.write = a.write := by
  rcases a.text_or_inked with ⟨s, oneLine, rfl⟩ | ⟨-, hink⟩
  · exact Text.trim_enclosed rfl rfl s.toList
  · exact Text.trim_eq_self_of_forall fun c hc => (isInked_iff.mp (hink c hc)).1

theorem Atom.head?_write (a : Atom) : a.write.head? ≠ some '[' := by
  rcases a.text_or_inked with ⟨s, oneLine, rfl⟩ | ⟨-, hink⟩
  · simp [Atom.write]
  · exact fun h => (isInked_iff.mp (hink '[' (List.mem_of_mem_head? h))).2.2 rfl

theorem Atom.newline_notMem (a : Atom) : '\n' ∉ a.write := by
  rcases a.text_or_inked with ⟨s, oneLine, rfl⟩ | ⟨-, hink⟩
  · simp [Atom.write, oneLine]
  · exact fun h => absurd (hink '\n' h) (by decide)

theorem Atom.getLast?_write (a : Atom) : a.write.getLast? ≠ some '\r' := by
  rcases a.text_or_inked with ⟨s, oneLine, rfl⟩ | ⟨-, hink⟩
  · rw [Atom.write, ← List.cons_append, List.getLast?_concat]
    simp
  · exact fun h => absurd (hink '\r' (List.mem_of_getLast? h)) (by decide)

theorem Atom.comma_notMem {a : Atom} (h : ∀ s oneLine, a = .text s oneLine → ',' ∉ s.toList) :
    ',' ∉ a.write := by
  rcases a.text_or_inked with ⟨s, oneLine, rfl⟩ | ⟨-, hink⟩
  · simp [Atom.write, h s oneLine rfl]
  · exact fun hmem => (isInked_iff.mp (hink ',' hmem)).2.1 rfl

theorem Atom.isLine_write (a : Atom) : Text.IsLine a.write := ⟨a.newline_notMem, a.getLast?_write⟩

/-! ## Entries -/

open Body

theorem Entry.newline_notMem_key (e : Entry) : '\n' ∉ e.key.toList :=
  fun h => absurd (e.key_word '\n' h) (by decide)

theorem Entry.isKeyLine (e : Entry) (text : List Char) :
    IsKeyLine (e.key.toList ++ ':' :: text) e.key.toList text :=
  ⟨rfl, e.key_ne_nil, e.key_word⟩

/-- The line of an item in a block. -/
theorem Atom.isItemLine (a : Atom) : IsItemLine (' ' :: ' ' :: '-' :: ' ' :: a.write) a.write :=
  ⟨[' ', ' '], [' '], rfl, List.all_eq_true.mp rfl, List.cons_ne_nil _ _, List.all_eq_true.mp rfl,
    a.write_ne_nil⟩

theorem not_isKeyLine_of_space (cs name text : List Char) : ¬ IsKeyLine (' ' :: cs) name text := by
  intro h
  obtain ⟨c, ds, heq, hc⟩ := h.exists_cons
  cases heq
  exact absurd hc (by decide)

theorem itemValues_block (items : List Atom) :
    ItemValues (items.map fun a => ' ' :: ' ' :: '-' :: ' ' :: a.write)
      (items.map Atom.value) := by
  induction items with
  | nil => exact .nil
  | cons a items ih =>
    rw [List.map_cons, List.map_cons, ← a.read_write]
    exact .item a.isItemLine ih

theorem Atom.trim_space_write (a : Atom) : Text.trim (' ' :: a.write) = a.write := by
  rw [Text.trim_cons_of_blank rfl, a.trim_write]

/-- Items between brackets, as they stand on a key line. -/
def bracket (items : List Atom) : List Char :=
  '[' :: ([',', ' '].intercalate (items.map Atom.write) ++ [']'])

theorem isLine_bracket (items : List Atom) : Text.IsLine (bracket items) := by
  have hitems : '\n' ∉ [',', ' '].intercalate (items.map Atom.write) :=
    Text.notMem_intercalate (by decide) fun l hl => by
      obtain ⟨a, -, rfl⟩ := List.mem_map.mp hl
      exact a.newline_notMem
  refine ⟨by simp [bracket, hitems], ?_⟩
  rw [bracket, ← List.cons_append, List.getLast?_concat]
  decide

theorem gives_bracket {items : List Atom} (between : List (List Char))
    (noComma : ∀ s oneLine, Atom.text s oneLine ∈ items → ',' ∉ s.toList) :
    Gives (' ' :: bracket items) between (.list (items.map Atom.value)) := by
  have htrim : Text.trim (' ' :: bracket items) = bracket items := by
    rw [Text.trim_cons_of_blank rfl]
    exact Text.trim_enclosed rfl rfl _
  have hpieces : Text.commaItems ([',', ' '].intercalate (items.map Atom.write)) =
      items.map Atom.write := by
    apply Text.commaItems_intercalate
    intro p hp
    obtain ⟨a, ha, rfl⟩ := List.mem_map.mp hp
    exact ⟨Atom.comma_notMem fun s oneLine h => noComma s oneLine (h ▸ ha), a.trim_write,
      a.write_ne_nil⟩
  have hgives : Gives (' ' :: bracket items) between _ := .bracketed htrim
  rw [hpieces, List.map_map] at hgives
  have hread : Scalar.read ∘ Atom.write = Atom.value := funext Atom.read_write
  rwa [hread] at hgives

/-- The lines of an entry are a key line with its key and indented lines, which together give its
value. -/
theorem Entry.exists_key_line (e : Entry) :
    ∃ line text between, e.lines = line :: between ∧ IsKeyLine line e.key.toList text ∧
      (∀ l ∈ between, ∃ cs, l = ' ' :: cs) ∧ '\n' ∉ text ∧
      Gives text between e.content.value := by
  unfold Entry.lines
  cases e.content with
  | scalar a =>
    refine ⟨_, ' ' :: a.write, [], rfl, e.isKeyLine _, by simp, by simp [a.newline_notMem], ?_⟩
    have hread : Scalar.read (' ' :: a.write) = a.value := by
      rw [← a.read_write]
      exact Scalar.read_eq_of_trim (by rw [a.trim_space_write, a.trim_write])
    rw [Content.value, ← hread]
    refine .scalar ?_ fun inner h => ?_
    · rw [a.trim_space_write]
      exact a.write_ne_nil
    · rw [a.trim_space_write] at h
      exact a.head?_write (by rw [h]; rfl)
  | block items =>
    refine ⟨_, [], _, rfl, e.isKeyLine [], ?_, by simp, .block rfl (itemValues_block items)⟩
    intro l hl
    obtain ⟨a, -, rfl⟩ := List.mem_map.mp hl
    exact ⟨_, rfl⟩
  | bracketed items noComma =>
    exact ⟨_, ' ' :: bracket items, [], rfl, e.isKeyLine _, by simp,
      by simp [(isLine_bracket items).1], gives_bracket [] noComma⟩

theorem Entry.isLine_of_mem {e : Entry} {l : List Char} (hl : l ∈ e.lines) : Text.IsLine l := by
  have hcolon : '\n' ∉ e.key.toList ++ [':', ' '] := by simp [e.newline_notMem_key]
  rw [Entry.lines] at hl
  cases hcontent : e.content with
  | scalar a =>
    rw [hcontent, List.mem_singleton] at hl
    have := a.isLine_write.append a.write_ne_nil hcolon
    simpa [hl] using this
  | block items =>
    rw [hcontent] at hl
    rcases List.mem_cons.mp hl with rfl | hl
    · exact Text.IsLine.append ⟨by decide, by decide⟩ (List.cons_ne_nil _ _) e.newline_notMem_key
    · obtain ⟨a, -, rfl⟩ := List.mem_map.mp hl
      have hdash : '\n' ∉ [' ', ' ', '-', ' '] := by decide
      exact a.isLine_write.append a.write_ne_nil hdash
  | bracketed items noComma =>
    rw [hcontent, List.mem_singleton] at hl
    have := (isLine_bracket items).append (List.cons_ne_nil _ _) hcolon
    simpa [hl, bracket] using this

theorem head?_of_isDelimiter {l : List Char} (h : Document.isDelimiter l) : l.head? = some '-' := by
  obtain ⟨bs, hl, -⟩ := Text.exists_trimEnd l
  rw [hl, Document.isDelimiter_iff.mp h]
  rfl

/-- No line of an entry ends the block. -/
theorem Entry.isDelimiter_of_mem {e : Entry} {l : List Char} (hl : l ∈ e.lines) :
    Document.isDelimiter l = false := by
  obtain ⟨line, text, between, hlines, hkey, hbetween, -⟩ := e.exists_key_line
  rw [Bool.eq_false_iff]
  intro hdelim
  have hhead := head?_of_isDelimiter hdelim
  rcases List.mem_cons.mp (hlines ▸ hl) with rfl | hl
  · obtain ⟨c, cs, rfl, hc⟩ := hkey.exists_cons
    cases hhead
    exact absurd hc (by decide)
  · obtain ⟨cs, rfl⟩ := hbetween l hl
    cases hhead

/-! ## Documents -/

theorem isLine_of_mem_body {d : Draft} {l : List Char} (hl : l ∈ d.body) : Text.IsLine l := by
  obtain ⟨e, -, hl⟩ := List.mem_flatMap.mp hl
  exact e.isLine_of_mem hl

theorem isDelimiter_of_mem_body {d : Draft} {l : List Char} (hl : l ∈ d.body) :
    Document.isDelimiter l = false := by
  obtain ⟨e, -, hl⟩ := List.mem_flatMap.mp hl
  exact e.isDelimiter_of_mem hl

theorem lines_closing (d : Draft) :
    ∃ rest, Text.lines (['-', '-', '-'] ++ d.trailing) = ['-', '-', '-'] :: rest := by
  have hline : Text.IsLine ['-', '-', '-'] := ⟨by decide, by decide⟩
  obtain ⟨rest, hrest⟩ := Text.EndsLine.exists_lines_append d.trailing_newline
  exact ⟨rest, by rw [hrest, hline.lines_eq, List.singleton_append]⟩

/-- The block of the document is the body of the draft. -/
theorem block?_write (d : Draft) :
    Document.block? d.write.toList = some (['\n'].intercalate d.body) := by
  obtain ⟨rest, hrest⟩ := d.lines_closing
  have hline : ∀ l ∈ ['-', '-', '-'] :: d.body, Text.IsLine l := by
    intro l hl
    rcases List.mem_cons.mp hl with rfl | hl
    · exact ⟨by decide, by decide⟩
    · exact isLine_of_mem_body hl
  have hlines : Text.lines d.write.toList =
      ['-', '-', '-'] :: (d.body ++ ['-', '-', '-'] :: rest) := by
    rw [write, String.toList_ofList, List.append_assoc, Text.lines_flatMap hline, hrest,
      List.cons_append]
  have hinside : ∀ l ∈ d.body, Text.trimEnd l ≠ "---".toList := fun l hl =>
    Document.isDelimiter_eq_false_iff.mp (isDelimiter_of_mem_body hl)
  exact Document.block?_eq_some_iff.mpr
    ⟨⟨['-', '-', '-'], d.body, ['-', '-', '-'], rest, by decide, by decide, hinside⟩, hlines, rfl⟩

/-- The lines of some entries have a section for each entry, in order. -/
theorem entries_sections (es : List Entry) :
    (sections ((es.flatMap Entry.lines).map Line.ofText)).2.map Section.entry =
      es.map fun e => (e.key, e.content.value) := by
  induction es with
  | nil => rfl
  | cons e es ih =>
    obtain ⟨line, text, between, hlines, hkey, hindent, hnewline, hgives⟩ := e.exists_key_line
    have hbetween : ∀ l ∈ between, ∀ n t, ¬ IsKeyLine l n t := by
      intro l hl
      obtain ⟨cs, rfl⟩ := hindent l hl
      exact not_isKeyLine_of_space cs
    have hafter : es.flatMap Entry.lines = [] ∨
        ∃ l ls n t, es.flatMap Entry.lines = l :: ls ∧ IsKeyLine l n t := by
      cases es with
      | nil => exact Or.inl rfl
      | cons f fs =>
        obtain ⟨l, t, ls, hl, hkey', -⟩ := f.exists_key_line
        refine Or.inr ⟨l, ls ++ fs.flatMap Entry.lines, _, t, ?_, hkey'⟩
        rw [List.flatMap_cons, hl, List.cons_append]
    rw [List.flatMap_cons, hlines, List.cons_append, List.map_cons, hkey.ofText, sections,
      sections_between hbetween hafter, List.map_cons, List.map_cons, ih]
    have hvalue := (gives_iff e.key.toList hnewline hbetween).mp hgives
    simp [Section.entry, hvalue]

theorem fields_body (d : Draft) : Body.fields (['\n'].intercalate d.body) = d.fields := by
  have hsections : (Body.parse (['\n'].intercalate d.body)).2 =
      (sections (d.body.map Line.ofText)).2 := by
    by_cases hnil : d.body = []
    · rw [hnil]
      rfl
    · rw [Body.parse, Text.lines_intercalate hnil fun l hl => isLine_of_mem_body hl]
  apply OrderedMap.ext
  rw [Body.fields, hsections, body, entries_sections]
  exact OrderedMap.entries_ofList d.fields.nodup

/-- The record of a written draft has the fields of the draft, with their values in their order. -/
theorem record_write (d : Draft) (path : String) :
    Document.record d.write path = ⟨FileIdentity.ofPath path, d.fields⟩ := by
  rw [Document.record, Document.fields, block?_write]
  simp only [fields_body]

/-- A day as it stands in a draft. -/
def firstOfMay : Atom :=
  .date ⟨2024, 5, 1, "2024-05-01"⟩
    (isWellFormed_of_date? (show Scalar.date? "2024-05-01".toList = some _ by decide)).1

/-- A draft with both layouts of a list and a text behind the block. The text with a comma stands on an
item line, where it is no obstacle. -/
theorem record_write_of_two_layouts :
    ∃ d : Draft,
      d.write = "---\ntags:\n  - \"a, b\"\n  - null\ndays: [2024-05-01, -7]\n---\nbehind\n" ∧
      d.fields.entries =
        [("tags", .list [.text "a, b", .null]),
          ("days", .list [.date ⟨2024, 5, 1, "2024-05-01"⟩, .int (-7)])] ∧
      Document.record d.write "n/x.md" = ⟨FileIdentity.ofPath "n/x.md", d.fields⟩ := by
  let tags : Entry :=
    { key := "tags"
      key_ne_nil := by decide
      key_word := List.all_eq_true.mp (by decide)
      content := .block [.text "a, b" (by decide), .null] }
  let days : Entry :=
    { key := "days"
      key_ne_nil := by decide
      key_word := List.all_eq_true.mp (by decide)
      content := .bracketed [firstOfMay, .int (-7) (by decide)] (by simp [firstOfMay]) }
  let d : Draft :=
    { entries := [tags, days]
      distinct := by decide
      trailing := "\nbehind\n".toList
      trailing_newline := Or.inr ⟨_, rfl⟩ }
  exact ⟨d, by decide +kernel, rfl, record_write d "n/x.md"⟩

end NoteQuery.Draft
