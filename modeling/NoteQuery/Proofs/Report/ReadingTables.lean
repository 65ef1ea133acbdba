import NoteQuery.Note.Document
import NoteQuery.Proofs.Report.TableLines
import NoteQuery.Proofs.Text.Digits

/-!
# Reading pipe tables

Who reads a pipe table cuts its lines at the bars, except for bars behind a backslash, and takes the
cells without the blanks around them. The heading and the rule of a table have as many cells as the
table has columns. A row has more if one of its texts holds a bar of its own, since bars are written
as they are; otherwise it has as many, and they are its texts.

* `readCells`: the cells of a line as they are read.
* `readCells_chars`: a line as it is drawn, cell by cell.
* `not_reads_every_row`, `reads_rows`: what is read in the rows of a table.
-/

namespace NoteQuery.PipeTable

/-- The pieces of a text between its bars, behind the character `previous`. A bar behind a backslash
is text. -/
def cutAtBars (previous : Char) : List Char → List (List Char)
  | [] => [[]]
  | c :: cs =>
    if c = '|' ∧ previous ≠ '\\' then [] :: cutAtBars c cs
    else (cutAtBars c cs).modifyHead (c :: ·)

/-- The cells of a line: what stands between two of its bars. -/
def readCells (line : List Char) : List (List Char) := (cutAtBars ' ' line).tail.dropLast

/-- A bar stands in the text that is not behind a backslash. -/
def HasBar (previous : Char) (cs : List Char) : Prop :=
  ∃ front back, cs = front ++ '|' :: back ∧ front.getLastD previous ≠ '\\'

/-! ## Cutting -/

section Cutting

variable {previous c : Char} {cs : List Char}

theorem cutAtBars_ne_nil (previous : Char) (cs : List Char) : cutAtBars previous cs ≠ [] := by
  induction cs generalizing previous with
  | nil => exact List.cons_ne_nil _ _
  | cons c cs ih =>
    rw [cutAtBars]
    split
    · exact List.cons_ne_nil _ _
    · intro hnil
      exact ih c (List.modifyHead_eq_nil_iff.mp hnil)

theorem cutAtBars_append {front : List Char} (h : front.getLastD previous ≠ '\\')
    (back : List Char) :
    cutAtBars previous (front ++ '|' :: back) =
      cutAtBars previous front ++ cutAtBars '|' back := by
  induction front generalizing previous with
  | nil => exact if_pos ⟨rfl, h⟩
  | cons c front ih =>
    rw [List.getLastD_cons] at h
    rw [List.cons_append, cutAtBars, cutAtBars, ih h]
    split
    · rfl
    · obtain ⟨piece, pieces, hpieces⟩ := List.exists_cons_of_ne_nil (cutAtBars_ne_nil c front)
      rw [hpieces]
      rfl

theorem hasBar_cons_iff :
    HasBar previous (c :: cs) ↔ (c = '|' ∧ previous ≠ '\\') ∨ HasBar c cs := by
  constructor
  · rintro ⟨front, back, hcs, hlast⟩
    cases front with
    | nil =>
      obtain ⟨rfl, -⟩ := List.cons.inj hcs
      exact Or.inl ⟨rfl, hlast⟩
    | cons d front =>
      obtain ⟨rfl, rfl⟩ := List.cons.inj hcs
      rw [List.getLastD_cons] at hlast
      exact Or.inr ⟨front, back, rfl, hlast⟩
  · rintro (⟨rfl, hprevious⟩ | ⟨front, back, rfl, hlast⟩)
    · exact ⟨[], cs, rfl, hprevious⟩
    · refine ⟨c :: front, back, rfl, ?_⟩
      rwa [List.getLastD_cons]

/-- Without a bar a text is one piece. -/
theorem cutAtBars_eq_singleton (h : ¬ HasBar previous cs) : cutAtBars previous cs = [cs] := by
  induction cs generalizing previous with
  | nil => rfl
  | cons c cs ih =>
    rw [hasBar_cons_iff, not_or] at h
    rw [cutAtBars, if_neg h.1, ih h.2]
    rfl

theorem two_le_length_cutAtBars (h : HasBar previous cs) :
    2 ≤ (cutAtBars previous cs).length := by
  obtain ⟨front, back, rfl, hlast⟩ := h
  have hfront := List.length_pos_iff.mpr (cutAtBars_ne_nil previous front)
  have hback := List.length_pos_iff.mpr (cutAtBars_ne_nil '|' back)
  rw [cutAtBars_append hlast, List.length_append]
  omega

theorem length_cutAtBars_eq_one_iff :
    (cutAtBars previous cs).length = 1 ↔ ¬ HasBar previous cs := by
  constructor
  · intro hlength hbar
    have := two_le_length_cutAtBars hbar
    omega
  · intro h
    rw [cutAtBars_eq_singleton h]
    rfl

theorem not_hasBar_of_notMem (h : '|' ∉ cs) : ¬ HasBar previous cs := by
  rintro ⟨front, back, rfl, -⟩
  exact h (List.mem_append_right _ List.mem_cons_self)

theorem hasBar_append_iff {bs : List Char} (h : '|' ∉ bs) :
    HasBar previous (cs ++ bs) ↔ HasBar previous cs := by
  induction cs generalizing previous with
  | nil => exact iff_of_false (not_hasBar_of_notMem h) (not_hasBar_of_notMem List.not_mem_nil)
  | cons c cs ih => rw [List.cons_append, hasBar_cons_iff, hasBar_cons_iff, ih]

end Cutting

/-! ## Lines -/

section Lines

variable {fill : Char}

/-- The pieces of a cell between its bars. -/
def pieces (fill : Char) (cell : List Char) : List (List Char) :=
  cutAtBars '|' (fill :: cell ++ [fill])

theorem length_pieces_eq_one_iff (hbar : fill ≠ '|') (cell : List Char) :
    (pieces fill cell).length = 1 ↔ ¬ HasBar fill cell := by
  have hfill : '|' ∉ [fill] := fun h => hbar (List.mem_singleton.mp h).symm
  rw [pieces, length_cutAtBars_eq_one_iff, List.cons_append, hasBar_cons_iff,
    hasBar_append_iff hfill]
  simp only [hbar, false_and, false_or]

theorem pieces_eq_singleton (hbar : fill ≠ '|') {cell : List Char} (h : ¬ HasBar fill cell) :
    pieces fill cell = [fill :: cell ++ [fill]] := by
  rw [← length_pieces_eq_one_iff hbar, pieces, length_cutAtBars_eq_one_iff] at h
  exact cutAtBars_eq_singleton h

theorem cutAtBars_chars (hslash : fill ≠ '\\') (cells : List (List Char)) {previous : Char}
    (hprevious : previous ≠ '\\') :
    cutAtBars previous (Drawn.chars ⟨fill, cells⟩) =
      [] :: (cells.flatMap (pieces fill) ++ [[]]) := by
  induction cells generalizing previous with
  | nil => exact if_pos ⟨rfl, hprevious⟩
  | cons cell cells ih =>
    -- The next cell begins with its bar, and the filling is in front of it.
    obtain ⟨rest, hrest⟩ : ∃ rest, Drawn.chars ⟨fill, cells⟩ = '|' :: rest :=
      (Drawn.exists_chars_eq ⟨fill, cells⟩ (Nat.zero_le _))
    have hlast : (fill :: cell ++ [fill]).getLastD '|' ≠ '\\' := by
      rw [List.getLastD_concat]
      exact hslash
    have ih := ih hslash
    rw [hrest, cutAtBars, if_pos ⟨rfl, hslash⟩] at ih
    have hframe : framed fill cell ++ '|' :: rest =
        '|' :: ((fill :: cell ++ [fill]) ++ '|' :: rest) := rfl
    rw [Drawn.chars_cons, hrest, hframe, cutAtBars, if_pos ⟨rfl, hprevious⟩,
      cutAtBars_append hlast, (List.cons.inj ih).2, List.flatMap_cons, List.append_assoc]
    rfl

/-- A line is read cell by cell. -/
theorem readCells_chars {d : Drawn} (hslash : d.fill ≠ '\\') :
    readCells d.chars = d.cells.flatMap (pieces d.fill) := by
  rw [readCells, cutAtBars_chars hslash d.cells (by decide), List.tail_cons,
    List.dropLast_concat]

/-- There are never fewer parts than wholes, and as many only if no whole falls apart. -/
theorem length_flatMap_eq_iff {α β : Type} {f : α → List β} {xs : List α}
    (hf : ∀ x ∈ xs, f x ≠ []) :
    xs.length ≤ (xs.flatMap f).length ∧
      ((xs.flatMap f).length = xs.length ↔ ∀ x ∈ xs, (f x).length = 1) := by
  induction xs with
  | nil => exact ⟨Nat.le_refl _, iff_of_true rfl fun _ h => absurd h List.not_mem_nil⟩
  | cons x xs ih =>
    obtain ⟨hle, hiff⟩ := ih fun y hy => hf y (List.mem_cons_of_mem _ hy)
    have hpos := List.length_pos_iff.mpr (hf x List.mem_cons_self)
    rw [List.flatMap_cons, List.length_append, List.length_cons, List.forall_mem_cons, ← hiff]
    constructor
    · omega
    · constructor
      · intro hlength
        constructor <;> omega
      · rintro ⟨hfirst, hrest⟩
        omega

theorem length_readCells {d : Drawn} (hbar : d.fill ≠ '|') (hslash : d.fill ≠ '\\') :
    d.cells.length ≤ (readCells d.chars).length ∧
      ((readCells d.chars).length = d.cells.length ↔ ∀ cell ∈ d.cells, ¬ HasBar d.fill cell) := by
  rw [readCells_chars hslash]
  simp only [← length_pieces_eq_one_iff hbar]
  apply length_flatMap_eq_iff
  intro cell _
  exact cutAtBars_ne_nil _ _

theorem readCells_of_not_hasBar {d : Drawn} (hbar : d.fill ≠ '|') (hslash : d.fill ≠ '\\')
    (h : ∀ cell ∈ d.cells, ¬ HasBar d.fill cell) :
    readCells d.chars = d.cells.map fun cell => d.fill :: cell ++ [d.fill] := by
  rw [readCells_chars hslash, List.map_eq_flatMap]
  exact List.flatMap_congr fun cell hcell => pieces_eq_singleton hbar (h cell hcell)

end Lines

/-! ## The rows of a table -/

/-- The texts of a line as they are read: at least one cell for each text, and the texts themselves
if none of them holds a bar. -/
structure ReadsAs (texts : List (List Char)) (line : List Char) : Prop where
  length_le : texts.length ≤ (readCells line).length
  length_iff : (readCells line).length = texts.length ↔ ∀ text ∈ texts, ¬ HasBar ' ' text
  trimmed : (readCells line).length = texts.length →
    (readCells line).map Text.trim = texts.map Text.trim

theorem trim_padded (text : List Char) (n : Nat) :
    Text.trim (' ' :: (text ++ Text.spaces n) ++ [' ']) = Text.trim text := by
  have hspaces : ∀ c ∈ Text.spaces n, Text.isBlank c := by
    intro c hc
    rw [List.eq_of_mem_replicate hc]
    rfl
  rw [List.cons_append, Text.trim_cons_of_blank rfl,
    Text.trim_append_blanks_end (List.forall_mem_singleton.mpr rfl),
    Text.trim_append_blanks_end hspaces]

theorem Padded.not_hasBar_iff {texts cells : List (List Char)} (h : Padded texts cells) :
    (∀ cell ∈ cells, ¬ HasBar ' ' cell) ↔ ∀ text ∈ texts, ¬ HasBar ' ' text := by
  induction h with
  | nil => rfl
  | cons hcell _ ih =>
    obtain ⟨n, rfl⟩ := hcell
    have hspaces : '|' ∉ Text.spaces n := Text.notMem_spaces (by decide) n
    rw [List.forall_mem_cons, List.forall_mem_cons, ih, hasBar_append_iff hspaces]

theorem Padded.map_trim {texts cells : List (List Char)} (h : Padded texts cells) :
    (cells.map fun cell => ' ' :: cell ++ [' ']).map Text.trim = texts.map Text.trim := by
  induction h with
  | nil => rfl
  | cons hcell _ ih =>
    obtain ⟨n, rfl⟩ := hcell
    rw [List.map_cons, List.map_cons, List.map_cons, ih, trim_padded]

theorem Padded.readsAs {texts cells : List (List Char)} (h : Padded texts cells) :
    ReadsAs texts (Drawn.chars ⟨' ', cells⟩) := by
  have hbar : ' ' ≠ '|' := by decide
  have hslash : ' ' ≠ '\\' := by decide
  obtain ⟨hle, hiff⟩ := length_readCells (d := ⟨' ', cells⟩) hbar hslash
  rw [h.not_hasBar_iff] at hiff
  rw [← h.length_eq] at hle hiff
  refine ⟨hle, hiff, ?_⟩
  intro hexact
  have hcells := h.not_hasBar_iff.mpr (hiff.mp hexact)
  rw [readCells_of_not_hasBar (d := ⟨' ', cells⟩) hbar hslash hcells, h.map_trim]

variable {rows : List (OrderedMap Value)} {fields : List String} {numbered : Bool}

/-- The number of columns of a table. -/
def columnCount (fields : List String) (numbered : Bool) : Nat :=
  fields.length + if numbered then 1 else 0

/-- What is read in the line of a row: at least the columns of the table, and the texts of the row
if none of them holds a bar. -/
structure ReadsRow (fields : List String) (numbered : Bool) (row : OrderedMap Value) (n : Nat)
    (line : List Char) : Prop where
  length_le : columnCount fields numbered ≤ (readCells line).length
  length_iff : (readCells line).length = columnCount fields numbered ↔
    ∀ name ∈ fields, ¬ HasBar ' ' (cell row name)
  trimmed : (readCells line).length = columnCount fields numbered →
    (readCells line).map Text.trim =
      (if numbered then [Nat.toDigits 10 n] else []) ++
        fields.map fun name => Text.trim (cell row name)

theorem isBlank_of_mem_toDigits {n : Nat} {c : Char} (h : c ∈ Nat.toDigits 10 n) :
    Text.isBlank c = false ∧ c ≠ '|' := by
  have hdigit := Nat.isDigit_of_mem_toDigits (by decide) (by decide) h
  refine ⟨Text.isBlank_of_isDigit hdigit, ?_⟩
  rintro rfl
  cases hdigit

theorem readsRow_of_readsAs (hfields : fields ≠ []) {row : OrderedMap Value} {n : Nat}
    {line : List Char}
    (h : ReadsAs (lineTexts numbered (Nat.toDigits 10 n) (fields.map (cell row))) line) :
    ReadsRow fields numbered row n line := by
  have hcells : fields.map (cell row) ≠ [] := fun hnil => hfields (List.map_eq_nil_iff.mp hnil)
  have hbars : (∀ text ∈ fields.map (cell row), ¬ HasBar ' ' text) ↔
      ∀ name ∈ fields, ¬ HasBar ' ' (cell row name) := List.forall_mem_map
  have htrim : (fields.map (cell row)).map Text.trim =
      fields.map fun name => Text.trim (cell row name) := List.map_map
  cases numbered with
  | false =>
    have htexts : lineTexts false (Nat.toDigits 10 n) (fields.map (cell row)) =
        fields.map (cell row) := orBlank_of_ne_nil hcells
    obtain ⟨hle, hiff, htrimmed⟩ := h
    rw [htexts, List.length_map] at hle hiff htrimmed
    rw [hbars] at hiff
    rw [htrim] at htrimmed
    exact ⟨hle, hiff, htrimmed⟩
  | true =>
    have htexts : lineTexts true (Nat.toDigits 10 n) (fields.map (cell row)) =
        Nat.toDigits 10 n :: fields.map (cell row) := rfl
    have hnumber : ¬ HasBar ' ' (Nat.toDigits 10 n) :=
      not_hasBar_of_notMem fun hmem => (isBlank_of_mem_toDigits hmem).2 rfl
    have hdigits : Text.trim (Nat.toDigits 10 n) = Nat.toDigits 10 n :=
      Text.trim_eq_self_of_forall fun c hc => (isBlank_of_mem_toDigits hc).1
    obtain ⟨hle, hiff, htrimmed⟩ := h
    rw [htexts, List.length_cons, List.length_map] at hle hiff htrimmed
    rw [List.forall_mem_cons, hbars] at hiff
    rw [List.map_cons, htrim, hdigits] at htrimmed
    exact ⟨hle, hiff.trans (and_iff_right hnumber), htrimmed⟩

theorem trim_heading (hfields : fields ≠ [])
    (hnames : ∀ name ∈ fields, ∀ c ∈ name.toList, Text.isWord c) (numbered : Bool) :
    (∀ text ∈ heading fields numbered, ¬ HasBar ' ' text) ∧
      (heading fields numbered).map Text.trim =
        (if numbered then [['#']] else []) ++ fields.map String.toList := by
  have hname : ∀ text ∈ fields.map String.toList, ¬ HasBar ' ' text := by
    rw [List.forall_mem_map]
    intro name hmem
    apply not_hasBar_of_notMem
    intro hbar
    have := hnames name hmem '|' hbar
    contradiction
  have htrim : (fields.map String.toList).map Text.trim = fields.map String.toList := by
    rw [List.map_map]
    apply List.map_congr_left
    intro name hmem
    exact Text.trim_eq_self_of_forall fun c hc => Text.isBlank_of_isWord (hnames name hmem c hc)
  cases numbered with
  | false =>
    have htexts : heading fields false = fields.map String.toList :=
      orBlank_of_ne_nil fun hnil => hfields (List.map_eq_nil_iff.mp hnil)
    rw [htexts]
    exact ⟨hname, htrim⟩
  | true =>
    have htexts : heading fields true = ['#'] :: fields.map String.toList := rfl
    rw [htexts, List.forall_mem_cons, List.map_cons, htrim]
    exact ⟨⟨not_hasBar_of_notMem (by decide), hname⟩, rfl⟩

/-- A title that holds a bar makes two columns of one. -/
theorem not_reads_every_row :
    let row := (Document.record "---\ntitle: a|b\n---\n" "n.md").row
    ¬ ∀ line ∈ charLines [row] ["title"] false,
      (readCells line).length = columnCount ["title"] false := by
  intro row h
  have hlines : "| a|b   |".toList ∈ charLines [row] ["title"] false := by decide +kernel
  have hlength := h _ hlines
  revert hlength
  decide

/-- The heading and the rule of a table have its columns, and so has a row unless one of its texts
holds a bar. Then it has more; otherwise its cells are its texts. -/
theorem reads_rows (hrows : rows ≠ []) (hfields : fields ≠ [])
    (hnames : ∀ name ∈ fields, ∀ c ∈ name.toList, Text.isWord c) (numbered : Bool) :
    ∃ head rule body, charLines rows fields numbered = head :: rule :: body ∧
      (readCells head).map Text.trim =
        (if numbered then [['#']] else []) ++ fields.map String.toList ∧
      (readCells rule).length = columnCount fields numbered ∧
      List.Forall₂ (fun e line => ReadsRow fields numbered e.1 e.2 line) (rows.zipIdx 1) body := by
  obtain ⟨hbars, htrim⟩ := trim_heading hfields hnames numbered
  have hfits := fits_heading rows fields numbered
  have hhead := hfits.padded.readsAs
  have hcolumns : (widths rows fields numbered).length = columnCount fields numbered := by
    have hlength := congrArg List.length htrim
    rw [List.length_map, ← hfits.length_eq, List.length_append, List.length_map] at hlength
    rw [hlength, columnCount, Nat.add_comm]
    cases numbered <;> rfl
  refine ⟨_, _, _, charLines_eq hrows, ?_, ?_, ?_⟩
  · rw [hhead.trimmed (hhead.length_iff.mpr hbars), htrim]
  · have hdash : '-' ≠ '|' := by decide
    have hslash : '-' ≠ '\\' := by decide
    have hdashes : ∀ cell ∈ (widths rows fields numbered).map dashes, ¬ HasBar '-' cell := by
      rw [List.forall_mem_map]
      intro n _
      exact not_hasBar_of_notMem (notMem_dashes hdash.symm n)
    rw [readCells_of_not_hasBar (d := ⟨'-', _⟩) hdash hslash hdashes, List.length_map,
      List.length_map, hcolumns]
  · rw [bodyTexts, List.map_map, List.map_map, List.forall₂_map_right_iff, List.forall₂_same]
    intro e he
    exact readsRow_of_readsAs hfields (fits_row he).padded.readsAs

/-- A bar behind a backslash stays in its cell, and a bar of its own parts it in two. -/
theorem reads_rows_of_escaped_bar :
    let rows : List (OrderedMap Value) :=
      [.ofList [("r", .text " a\\|b ")], .ofList [("r", .text "a|b")]]
    rows ≠ [] ∧ ["r"] ≠ [] ∧ (∀ name ∈ ["r"], ∀ c ∈ name.toList, Text.isWord c) ∧
      ∃ head rule first second, charLines rows ["r"] true = [head, rule, first, second] ∧
        (readCells first).map Text.trim = [['1'], ['a', '\\', '|', 'b']] ∧
        2 < (readCells second).length := by
  intro rows
  have hrows : rows ≠ [] := List.cons_ne_nil _ _
  have hfields : ["r"] ≠ [] := List.cons_ne_nil _ _
  have hnames : ∀ name ∈ ["r"], ∀ c ∈ name.toList, Text.isWord c := by
    rw [List.forall_mem_singleton, ← List.all_eq_true]
    rfl
  have hescaped : ∀ name ∈ ["r"], ¬ HasBar ' ' (cell (.ofList [("r", .text " a\\|b ")]) name) := by
    rw [List.forall_mem_singleton, ← length_cutAtBars_eq_one_iff]
    rfl
  have hbar : ¬ ∀ name ∈ ["r"], ¬ HasBar ' ' (cell (.ofList [("r", .text "a|b")]) name) := by
    rw [List.forall_mem_singleton, not_not]
    exact ⟨['a'], ['b'], rfl, by decide⟩
  refine ⟨hrows, hfields, hnames, ?_⟩
  obtain ⟨head, rule, body, hlines, -, -, hbody⟩ := reads_rows hrows hfields hnames true
  cases hbody with
  | cons hfirst hbody =>
    cases hbody with
    | cons hsecond hbody =>
      cases hbody
      refine ⟨head, rule, _, _, hlines, ?_, ?_⟩
      · rw [hfirst.trimmed (hfirst.length_iff.mpr hescaped)]
        rfl
      · apply Nat.lt_of_le_of_ne hsecond.length_le
        intro heq
        exact hbar (hsecond.length_iff.mp heq.symm)

end NoteQuery.PipeTable
