import Mathlib.Data.List.Forall2
import NoteQuery.Proofs.Text.Widths
import NoteQuery.Report.PipeTable

/-!
# The lines of pipe tables

Every line of a pipe table is drawn the same way: bars, and between them the cells with a filling on
either side. The cells of the heading and of the rows are their texts, filled up to the widths of
the columns, and those of the rule are as many dashes. A table without columns looks like one with a
single blank column.

* `Drawn`: a line as it is drawn.
* `charLines_eq`: the lines of a table from its texts and its widths.
* `fits_texts`: no text is wider than its column.
* `forall_mem_texts`, `mem_drawn_iff`: what the texts and the lines of a table are.
-/

namespace NoteQuery.PipeTable

/-- A line with its cells, and what stands between the cells and the bars. -/
structure Drawn where
  fill : Char
  cells : List (List Char)

/-- A cell behind its bar. -/
def framed (fill : Char) (cell : List Char) : List Char := '|' :: fill :: cell ++ [fill]

namespace Drawn

/-- What stands in a line before its bar number `n`, counted from zero. -/
def before (d : Drawn) (n : Nat) : List Char := (d.cells.take n).flatMap (framed d.fill)

def chars (d : Drawn) : List Char := d.before d.cells.length ++ ['|']

variable {d : Drawn} {fill : Char}

theorem chars_nil (fill : Char) : chars ⟨fill, []⟩ = ['|'] := rfl

theorem chars_cons (fill : Char) (cell : List Char) (cells : List (List Char)) :
    chars ⟨fill, cell :: cells⟩ = framed fill cell ++ chars ⟨fill, cells⟩ := by
  simp [chars, before]

theorem exists_chars_eq (d : Drawn) {n : Nat} (hn : n ≤ d.cells.length) :
    ∃ back, d.chars = d.before n ++ '|' :: back := by
  obtain ⟨fill, cells⟩ := d
  induction n generalizing cells with
  | zero =>
    cases cells with
    | nil => exact ⟨[], rfl⟩
    | cons cell cells => exact ⟨_, chars_cons fill cell cells⟩
  | succ n ih =>
    cases cells with
    | nil => simp at hn
    | cons cell cells =>
      obtain ⟨back, hback⟩ := ih cells (by simpa using hn)
      refine ⟨back, ?_⟩
      rw [chars_cons, hback]
      simp [before]

/-- Cells joined by bars, with bars at the ends. -/
theorem chars_eq_intercalate (fill : Char) (cell : List Char) (cells : List (List Char)) :
    chars ⟨fill, cell :: cells⟩ =
      ['|', fill] ++ [fill, '|', fill].intercalate (cell :: cells) ++ [fill, '|'] := by
  induction cells generalizing cell with
  | nil => simp [chars_cons, chars_nil, framed]
  | cons next cells ih =>
    rw [chars_cons, ih next, List.intercalate_cons_cons]
    simp [framed]

end Drawn

theorem notMem_dashes {c : Char} (h : c ≠ '-') (n : Nat) : c ∉ dashes n := by
  intro hmem
  exact h (List.eq_of_mem_replicate hmem)

/-! ## Blank columns -/

/-- What there is, or a blank if there is nothing. -/
def orBlank {α : Type} (blank : α) : List α → List α
  | [] => [blank]
  | x :: xs => x :: xs

theorem orBlank_of_ne_nil {α : Type} {blank : α} {xs : List α} (h : xs ≠ []) :
    orBlank blank xs = xs := by
  cases xs with
  | nil => exact absurd rfl h
  | cons x xs => rfl

theorem barLine_eq (texts : List (List Char)) :
    barLine texts = Drawn.chars ⟨' ', orBlank [] texts⟩ := by
  cases texts with
  | nil => rfl
  | cons text texts => exact (Drawn.chars_eq_intercalate ' ' text texts).symm

theorem ruleLine_eq (rules : List (List Char)) :
    ruleLine rules = Drawn.chars ⟨'-', orBlank [] rules⟩ := by
  cases rules with
  | nil => rfl
  | cons rule rules => exact (Drawn.chars_eq_intercalate '-' rule rules).symm

/-! ## The texts and the widths of a table -/

/-- The texts of a line: its number, if lines are numbered, and its cells. -/
def lineTexts (numbered : Bool) (number : List Char) (cells : List (List Char)) :
    List (List Char) :=
  orBlank [] (if numbered then number :: cells else cells)

def heading (fields : List String) (numbered : Bool) : List (List Char) :=
  lineTexts numbered ['#'] (fields.map String.toList)

def bodyTexts (rows : List (OrderedMap Value)) (fields : List String) (numbered : Bool) :
    List (List (List Char)) :=
  (rows.zipIdx 1).map fun (row, n) =>
    lineTexts numbered (Nat.toDigits 10 n) (fields.map (cell row))

/-- The texts of a table, those of the heading first. Without rows there is no table. -/
def texts (rows : List (OrderedMap Value)) (fields : List String) (numbered : Bool) :
    List (List (List Char)) :=
  if rows.isEmpty then [] else heading fields numbered :: bodyTexts rows fields numbered

/-- The widths of the cells of the fields. -/
def fieldWidths (rows : List (OrderedMap Value)) (fields : List String) : List Nat :=
  columnWidths (fields.map fun name => Text.width name.toList) (cells rows fields)

/-- The widths of the columns of a table. -/
def widths (rows : List (OrderedMap Value)) (fields : List String) (numbered : Bool) : List Nat :=
  orBlank 0 (if numbered then numberWidth rows :: fieldWidths rows fields
    else fieldWidths rows fields)

/-- The lines of a table as they are drawn. -/
def drawn (rows : List (OrderedMap Value)) (fields : List String) (numbered : Bool) : List Drawn :=
  let ws := widths rows fields numbered
  ⟨' ', padAll ws (heading fields numbered)⟩ :: ⟨'-', ws.map dashes⟩ ::
    (bodyTexts rows fields numbered).map fun texts => ⟨' ', padAll ws texts⟩

variable {rows : List (OrderedMap Value)} {fields : List String} {numbered : Bool}

/-! ## Widths that fit -/

/-- No text of a line is wider than its column. -/
def Fits (ws : List Nat) (line : List (List Char)) : Prop :=
  List.Forall₂ (fun w text => Text.width text ≤ w) ws line

/-- Columns that take one more line in. -/
def widen (ws : List Nat) (line : List (List Char)) : List Nat :=
  List.zipWith (fun w text => max w (Text.width text)) ws line

theorem columnWidths_cons (ws : List Nat) (line : List (List Char))
    (lines : List (List (List Char))) :
    columnWidths ws (line :: lines) = columnWidths (widen ws line) lines := rfl

theorem length_widen {ws : List Nat} {line : List (List Char)} (h : line.length = ws.length) :
    (widen ws line).length = ws.length := by
  rw [widen, List.length_zipWith, h, Nat.min_self]

theorem fits_widen_self {ws : List Nat} {line : List (List Char)} (h : line.length = ws.length) :
    Fits (widen ws line) line := by
  induction line generalizing ws with
  | nil =>
    obtain rfl := List.length_eq_zero_iff.mp h.symm
    exact .nil
  | cons text line ih =>
    cases ws with
    | nil => cases h
    | cons w ws => exact .cons (Nat.le_max_right _ _) (ih (Nat.succ.inj h))

theorem Fits.widen {ws : List Nat} {line other : List (List Char)} (h : Fits ws line)
    (hother : other.length = ws.length) : Fits (widen ws other) line := by
  induction h generalizing other with
  | nil => exact .nil
  | cons hw _ ih =>
    cases other with
    | nil => cases hother
    | cons text other =>
      exact .cons (Nat.le_trans hw (Nat.le_max_left _ _)) (ih (Nat.succ.inj hother))

/-- What fits in the beginning fits in the end, and so does every line that is taken in. -/
theorem fits_columnWidths {ws : List Nat} {lines : List (List (List Char))}
    {line : List (List Char)} (hlength : ∀ other ∈ lines, other.length = ws.length)
    (h : Fits ws line ∨ line ∈ lines) : Fits (columnWidths ws lines) line := by
  induction lines generalizing ws with
  | nil => exact h.resolve_right List.not_mem_nil
  | cons first lines ih =>
    have hfirst := hlength first List.mem_cons_self
    rw [columnWidths_cons]
    apply ih
    · intro other hother
      rw [length_widen hfirst]
      exact hlength other (List.mem_cons_of_mem _ hother)
    · rcases h with h | h
      · exact Or.inl (h.widen hfirst)
      · rcases List.mem_cons.mp h with rfl | h
        · exact Or.inl (fits_widen_self hfirst)
        · exact Or.inr h

theorem fits_fieldWidths {line : List (List Char)}
    (h : line = fields.map String.toList ∨ ∃ row ∈ rows, line = fields.map (cell row)) :
    Fits (fieldWidths rows fields) line := by
  apply fits_columnWidths
  · intro other hother
    obtain ⟨row, -, rfl⟩ := List.mem_map.mp hother
    rw [List.length_map, List.length_map]
  · rcases h with rfl | ⟨row, hrow, rfl⟩
    · rw [Fits, List.forall₂_map_left_iff, List.forall₂_map_right_iff, List.forall₂_same]
      exact Or.inl fun name _ => Nat.le_refl _
    · exact Or.inr (List.mem_map_of_mem hrow)

theorem Fits.orBlank {ws : List Nat} {line : List (List Char)} (h : Fits ws line) :
    Fits (orBlank 0 ws) (orBlank [] line) := by
  cases h with
  | nil => exact List.Forall₂.cons (Nat.le_refl 0) List.Forall₂.nil
  | cons hw h => exact List.Forall₂.cons hw h

theorem fits_lineTexts {line : List (List Char)} {number : List Char}
    (h : Fits (fieldWidths rows fields) line)
    (hnumber : numbered = true → Text.width number ≤ numberWidth rows) :
    Fits (widths rows fields numbered) (lineTexts numbered number line) := by
  cases numbered with
  | false => exact h.orBlank
  | true =>
    have hline : Fits (numberWidth rows :: fieldWidths rows fields) (number :: line) :=
      List.Forall₂.cons (hnumber rfl) h
    exact hline.orBlank

theorem width_number_le {n : Nat} (h : n ≤ rows.length) :
    Text.width (Nat.toDigits 10 n) ≤ numberWidth rows := by
  rw [Text.width_toDigits]
  exact Text.length_toDigits_mono h

theorem fits_heading (rows : List (OrderedMap Value)) (fields : List String) (numbered : Bool) :
    Fits (widths rows fields numbered) (heading fields numbered) := by
  apply fits_lineTexts (fits_fieldWidths (Or.inl rfl))
  intro _
  exact Nat.length_toDigits_pos

theorem bounds_of_mem_zipIdx {α : Type} {xs : List α} {e : α × Nat} (h : e ∈ xs.zipIdx 1) :
    e.1 ∈ xs ∧ e.2 ≤ xs.length := by
  refine ⟨List.fst_mem_of_mem_zipIdx h, ?_⟩
  have hlt := List.snd_lt_of_mem_zipIdx h
  omega

theorem fits_row {e : OrderedMap Value × Nat} (h : e ∈ rows.zipIdx 1) :
    Fits (widths rows fields numbered)
      (lineTexts numbered (Nat.toDigits 10 e.2) (fields.map (cell e.1))) := by
  obtain ⟨hrow, hnumber⟩ := bounds_of_mem_zipIdx h
  apply fits_lineTexts (fits_fieldWidths (Or.inr ⟨e.1, hrow, rfl⟩))
  intro _
  exact width_number_le hnumber

theorem texts_of_ne_nil (hrows : rows ≠ []) :
    texts rows fields numbered = heading fields numbered :: bodyTexts rows fields numbered := by
  rw [texts, List.isEmpty_eq_false_iff.mpr hrows]
  rfl

/-- All texts of a table fit its columns. -/
theorem fits_texts {line : List (List Char)} (h : line ∈ texts rows fields numbered) :
    Fits (widths rows fields numbered) line := by
  unfold texts at h
  split at h
  · cases h
  · rcases List.mem_cons.mp h with rfl | h
    · exact fits_heading rows fields numbered
    · obtain ⟨e, he, rfl⟩ := List.mem_map.mp h
      exact fits_row he

theorem mem_lineTexts {number text : List Char} {line : List (List Char)}
    (h : text ∈ lineTexts numbered number line) : text = [] ∨ text = number ∨ text ∈ line := by
  unfold lineTexts at h
  cases numbered with
  | true => exact Or.inr (List.mem_cons.mp h)
  | false =>
    cases line with
    | nil => exact Or.inl (List.mem_singleton.mp h)
    | cons cell line => exact Or.inr (Or.inr h)

/-- The texts of a table are names and cells, numbers and what stands above them, and blanks. -/
theorem forall_mem_texts {P : List Char → Prop} (hblank : P []) (hsign : P ['#'])
    (hnumber : ∀ n, P (Nat.toDigits 10 n)) (hnames : ∀ name ∈ fields, P name.toList)
    (hcells : ∀ row ∈ rows, ∀ name ∈ fields, P (cell row name)) {line : List (List Char)}
    (h : line ∈ texts rows fields numbered) : ∀ text ∈ line, P text := by
  unfold texts at h
  split at h
  · cases h
  · intro text htext
    rcases List.mem_cons.mp h with rfl | h
    · rcases mem_lineTexts htext with rfl | rfl | htext
      · exact hblank
      · exact hsign
      · obtain ⟨name, hname, rfl⟩ := List.mem_map.mp htext
        exact hnames name hname
    · obtain ⟨e, he, rfl⟩ := List.mem_map.mp h
      rcases mem_lineTexts htext with rfl | rfl | htext
      · exact hblank
      · exact hnumber e.2
      · obtain ⟨name, hname, rfl⟩ := List.mem_map.mp htext
        exact hcells e.1 (bounds_of_mem_zipIdx he).1 name hname

/-! ## The lines -/

theorem mem_drawn_iff (hrows : rows ≠ []) {d : Drawn} :
    d ∈ drawn rows fields numbered ↔
      d = ⟨'-', (widths rows fields numbered).map dashes⟩ ∨
        ∃ line ∈ texts rows fields numbered,
          d = ⟨' ', padAll (widths rows fields numbered) line⟩ := by
  rw [texts_of_ne_nil hrows, List.exists_mem_cons_iff, drawn, List.mem_cons, List.mem_cons,
    List.mem_map, or_left_comm]
  simp only [eq_comm (b := d)]

/-- The cells are the texts with spaces after them. -/
def Padded (texts cells : List (List Char)) : Prop :=
  List.Forall₂ (fun text cell => ∃ n, cell = text ++ Text.spaces n) texts cells

theorem Fits.padded {ws : List Nat} {line : List (List Char)} (h : Fits ws line) :
    Padded line (padAll ws line) := by
  induction h with
  | nil => exact List.Forall₂.nil
  | cons _ _ ih => exact List.Forall₂.cons ⟨_, rfl⟩ ih

theorem padAll_orBlank {ws : List Nat} {line : List (List Char)} (h : Fits ws line) :
    padAll (orBlank 0 ws) (orBlank [] line) = orBlank [] (padAll ws line) := by
  cases h with
  | nil => rfl
  | cons hw h => rfl

theorem map_dashes_orBlank (ws : List Nat) :
    (orBlank 0 ws).map dashes = orBlank [] (ws.map dashes) := by
  cases ws with
  | nil => rfl
  | cons w ws => rfl

theorem padAll_lineTexts {line : List (List Char)} (h : Fits (fieldWidths rows fields) line)
    (number : List Char) :
    padAll (widths rows fields numbered) (lineTexts numbered number line) =
      orBlank [] (if numbered then
        Text.padEnd (numberWidth rows) number :: padAll (fieldWidths rows fields) line
      else padAll (fieldWidths rows fields) line) := by
  cases numbered with
  | false => exact padAll_orBlank h
  | true => rfl

/-- The lines of a table with rows. -/
theorem charLines_eq (hrows : rows ≠ []) :
    charLines rows fields numbered = (drawn rows fields numbered).map Drawn.chars := by
  have hempty : rows.isEmpty = false := List.isEmpty_eq_false_iff.mpr hrows
  rw [charLines, hempty, if_neg Bool.false_ne_true, drawn]
  simp only [List.map_cons, bodyTexts, cells, List.zipIdx_map, List.map_map]
  congr 1
  · rw [barLine_eq, heading, padAll_lineTexts (fits_fieldWidths (Or.inl rfl))]
    rfl
  congr 1
  · rw [ruleLine_eq, widths, map_dashes_orBlank]
    cases numbered <;> rfl
  · apply List.map_congr_left
    intro e he
    have hrow := (bounds_of_mem_zipIdx he).1
    rw [Function.comp_apply, Function.comp_apply, Function.comp_apply, barLine_eq,
      padAll_lineTexts (fits_fieldWidths (Or.inr ⟨e.1, hrow, rfl⟩))]
    rfl

theorem charLines_of_no_rows (fields : List String) (numbered : Bool) :
    charLines [] fields numbered = [noResults.toList] := rfl

end NoteQuery.PipeTable
