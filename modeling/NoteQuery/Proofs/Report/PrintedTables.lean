import Mathlib.Data.List.TakeWhile
import NoteQuery.Proofs.Report.EmojiCodes
import NoteQuery.Proofs.Report.TableLines
import NoteQuery.Proofs.Vault.ViewColumns
import NoteQuery.Report.Render

/-!
# Pipe tables in reports

A plain report shows the lines of a pipe table, but emoji codes are replaced in them, after the
texts have been filled up to the widths of their columns. Codes never reach over the blanks around a
cell. A table is therefore shown as it is written if and only if none of its texts would change.

* `PipeTable.replace_chars_eq_self_iff`: lines that stay as they are.
* `IsPipeTable.plain_eq`, `IsPipeTable.plain_eq_lines_iff`: the report of a table.
* `isPipeTable_of_ask`: the tables that queries and views come to.
* `not_shows_every_table`, `shows_table`: tables that are shown as they are written.
-/

namespace NoteQuery

namespace PipeTable

/-! ## Codes in the lines of a table -/

theorem replace_append_spaces (text : List Char) (n : Nat) :
    Emoji.replace (text ++ Text.spaces n) = Emoji.replace text ++ Text.spaces n := by
  cases n with
  | zero =>
    have hnil : Text.spaces 0 = [] := rfl
    rw [hnil, List.append_nil, List.append_nil]
  | succ n =>
    have hcolon : ':' ∉ Text.spaces n := Text.notMem_spaces (by decide) n
    have hspaces : Text.spaces (n + 1) = ' ' :: Text.spaces n := List.replicate_succ
    rw [hspaces, Emoji.replace_append_cons rfl, Emoji.replace_of_colon_notMem hcolon]

/-- The line with the codes in its cells replaced. -/
def Drawn.replaced (d : Drawn) : Drawn := ⟨d.fill, d.cells.map Emoji.replace⟩

/-- Codes are replaced cell by cell. -/
theorem replace_chars (cells : List (List Char)) :
    Emoji.replace (Drawn.chars ⟨' ', cells⟩) = Drawn.chars ⟨' ', cells.map Emoji.replace⟩ := by
  induction cells with
  | nil => rfl
  | cons cell cells ih =>
    have hframe : ∀ text rest, framed ' ' text ++ rest = ['|'] ++ ' ' :: (text ++ ' ' :: rest) := by
      intro text rest
      simp [framed]
    rw [List.map_cons, Drawn.chars_cons, Drawn.chars_cons, hframe, hframe,
      Emoji.replace_append_cons rfl, Emoji.replace_append_cons rfl, ih]
    rfl

theorem replace_eq_self_of_chars_eq {fill : Char} {cells : List (List Char)}
    (h : Drawn.chars ⟨fill, cells.map Emoji.replace⟩ = Drawn.chars ⟨fill, cells⟩) :
    ∀ cell ∈ cells, Emoji.replace cell = cell := by
  induction cells with
  | nil =>
    intro cell hcell
    cases hcell
  | cons cell cells ih =>
    rw [List.map_cons, Drawn.chars_cons, Drawn.chars_cons] at h
    simp only [framed, List.cons_append, List.append_assoc, List.cons_inj_right] at h
    -- A cell that has changed would show in the line, whatever the cells behind it have become.
    have hcell := Emoji.replace_eq_self_of_append_eq h
    rw [hcell, List.append_cancel_left_eq] at h
    exact List.forall_mem_cons.mpr ⟨hcell, ih (List.cons.inj h).2⟩

theorem Padded.replace_eq_self_iff {texts cells : List (List Char)} (h : Padded texts cells) :
    (∀ cell ∈ cells, Emoji.replace cell = cell) ↔ ∀ text ∈ texts, Emoji.replace text = text := by
  induction h with
  | nil => rfl
  | @cons text cell texts cells hcell _ ih =>
    obtain ⟨n, rfl⟩ := hcell
    rw [List.forall_mem_cons, List.forall_mem_cons, ih, replace_append_spaces,
      List.append_left_inj]

theorem replace_chars_eq_self_iff {texts cells : List (List Char)} (h : Padded texts cells) :
    Emoji.replace (Drawn.chars ⟨' ', cells⟩) = Drawn.chars ⟨' ', cells⟩ ↔
      ∀ text ∈ texts, Emoji.replace text = text := by
  rw [replace_chars, ← h.replace_eq_self_iff]
  constructor
  · exact replace_eq_self_of_chars_eq
  · intro hcells
    rw [List.map_congr_left hcells, List.map_id']

/-! ## Characters -/

/-- No character of the text is one of the control characters before the space. -/
def NoControl (cs : List Char) : Prop := ∀ c ∈ cs, 0x20 ≤ c.toNat

instance (cs : List Char) : Decidable (NoControl cs) :=
  List.decidableBAll (fun c : Char => 0x20 ≤ c.toNat) cs

theorem NoControl.notMem {c : Char} {cs : List Char} (h : NoControl cs) (hc : c.toNat < 0x20) :
    c ∉ cs := by
  intro hmem
  have := h c hmem
  omega

theorem mem_chars {fill c : Char} {cells : List (List Char)} (h : c ∈ Drawn.chars ⟨fill, cells⟩) :
    c = '|' ∨ c = fill ∨ ∃ cell ∈ cells, c ∈ cell := by
  induction cells with
  | nil => exact Or.inl (List.mem_singleton.mp h)
  | cons cell cells ih =>
    rw [Drawn.chars_cons, List.mem_append, framed, List.mem_append, List.mem_cons, List.mem_cons,
      List.mem_singleton] at h
    rcases h with ((h | h | h) | h) | h
    · exact Or.inl h
    · exact Or.inr (Or.inl h)
    · exact Or.inr (Or.inr ⟨cell, List.mem_cons_self, h⟩)
    · exact Or.inr (Or.inl h)
    · rcases ih h with h | h | ⟨other, hother, h⟩
      · exact Or.inl h
      · exact Or.inr (Or.inl h)
      · exact Or.inr (Or.inr ⟨other, List.mem_cons_of_mem _ hother, h⟩)

theorem mem_rule {c : Char} {ws : List Nat} (h : c ∈ Drawn.chars ⟨'-', ws.map dashes⟩) :
    c = '|' ∨ c = '-' := by
  rcases mem_chars h with h | h | ⟨cell, hcell, h⟩
  · exact Or.inl h
  · exact Or.inr h
  · obtain ⟨n, -, rfl⟩ := List.mem_map.mp hcell
    exact Or.inr (List.eq_of_mem_replicate h)

theorem Padded.noControl {texts cells : List (List Char)} (h : Padded texts cells)
    (htexts : ∀ text ∈ texts, NoControl text) : ∀ cell ∈ cells, NoControl cell := by
  induction h with
  | nil =>
    intro cell hcell
    cases hcell
  | cons hcell _ ih =>
    obtain ⟨n, rfl⟩ := hcell
    obtain ⟨htext, htexts⟩ := List.forall_mem_cons.mp htexts
    have hspaces : NoControl (Text.spaces n) := by
      intro c hc
      exact (Text.isAscii_of_mem_spaces hc).1
    exact List.forall_mem_cons.mpr ⟨List.forall_mem_append.mpr ⟨htext, hspaces⟩, ih htexts⟩

variable {rows : List (OrderedMap Value)} {fields : List String} {numbered : Bool}

theorem noControl_of_mem_charLines (hnames : ∀ name ∈ fields, NoControl name.toList)
    (hcells : ∀ row ∈ rows, ∀ name ∈ fields, NoControl (cell row name)) {line : List Char}
    (h : line ∈ charLines rows fields numbered) : NoControl line := by
  by_cases hrows : rows = []
  · subst hrows
    obtain rfl := List.mem_singleton.mp h
    decide
  · rw [charLines_eq hrows] at h
    obtain ⟨d, hd, rfl⟩ := List.mem_map.mp h
    rcases (mem_drawn_iff hrows).mp hd with rfl | ⟨line, hline, rfl⟩
    · intro c hc
      rcases mem_rule hc with rfl | rfl
      · decide
      · decide
    · have hnumber : ∀ n, NoControl (Nat.toDigits 10 n) := by
        intro n c hc
        exact (Text.isAscii_of_mem_toDigits hc).1
      have hcells := (fits_texts hline).padded.noControl
        (forall_mem_texts (by decide) (by decide) hnumber hnames hcells hline)
      intro c hc
      rcases mem_chars hc with rfl | rfl | ⟨cell, hcell, hc⟩
      · decide
      · decide
      · exact hcells cell hcell c hc

theorem ne_nil_of_mem_charLines {line : List Char}
    (h : line ∈ charLines rows fields numbered) : line ≠ [] := by
  by_cases hrows : rows = []
  · subst hrows
    obtain rfl := List.mem_singleton.mp h
    decide
  · rw [charLines_eq hrows] at h
    obtain ⟨d, -, rfl⟩ := List.mem_map.mp h
    exact List.append_ne_nil_of_right_ne_nil _ (List.cons_ne_nil _ _)

/-! ## The codes of a table -/

theorem replace_rule (ws : List Nat) :
    Emoji.replace (Drawn.chars ⟨'-', ws.map dashes⟩) = Drawn.chars ⟨'-', ws.map dashes⟩ := by
  apply Emoji.replace_of_colon_notMem
  intro h
  rcases mem_rule h with h | h
  · contradiction
  · contradiction

theorem replace_drawn {d : Drawn} (h : d ∈ drawn rows fields numbered) :
    Emoji.replace d.chars = d.replaced.chars := by
  rcases List.mem_cons.mp h with rfl | h
  · exact replace_chars _
  rcases List.mem_cons.mp h with rfl | h
  · have hdashes : ∀ cell ∈ (widths rows fields numbered).map dashes,
        Emoji.replace cell = cell := by
      rw [List.forall_mem_map]
      intro n _
      exact Emoji.replace_of_colon_notMem (notMem_dashes (by decide) n)
    rw [replace_rule, Drawn.replaced, List.map_congr_left hdashes, List.map_id']
  · obtain ⟨line, -, rfl⟩ := List.mem_map.mp h
    exact replace_chars _

/-- The lines of a table change if and only if one of its texts does. -/
theorem map_replace_charLines_eq_iff :
    (charLines rows fields numbered).map Emoji.replace = charLines rows fields numbered ↔
      ∀ line ∈ texts rows fields numbered, ∀ text ∈ line, Emoji.replace text = text := by
  by_cases hrows : rows = []
  · subst hrows
    have hnone : Emoji.replace noResults.toList = noResults.toList :=
      Emoji.replace_of_colon_notMem (by decide)
    rw [charLines_of_no_rows, List.map_singleton, hnone]
    exact iff_of_true rfl fun _ h => absurd h List.not_mem_nil
  · rw [charLines_eq hrows, List.map_map, List.map_inj_left]
    constructor
    · intro h line hline
      have hdrawn := h _ ((mem_drawn_iff hrows).mpr (Or.inr ⟨line, hline, rfl⟩))
      exact (replace_chars_eq_self_iff (fits_texts hline).padded).mp hdrawn
    · intro h d hd
      rcases (mem_drawn_iff hrows).mp hd with rfl | ⟨line, hline, rfl⟩
      · exact replace_rule _
      · exact (replace_chars_eq_self_iff (fits_texts hline).padded).mpr (h line hline)

end PipeTable

namespace Report

open PipeTable (NoControl)

/-! ## Printing -/

theorem noControl_replace {cs : List Char} (h : NoControl cs) : NoControl (Emoji.replace cs) := by
  apply Emoji.forall_mem_replace _ h
  intro c hc
  rw [Emoji.partsWords, Bool.or_eq_false_iff] at hc
  have := of_decide_eq_false hc.1
  omega

theorem longLine_eq {cs : List Char} (h : NoControl cs) : longLine cs = [Emoji.replace cs] := by
  have hreplaced := noControl_replace h
  have hprinted : Text.printed (Emoji.replace cs) = Emoji.replace cs := by
    apply List.filter_eq_self.mpr
    intro c hc
    have := hreplaced c hc
    simp only [List.contains_eq_mem, List.mem_cons, List.not_mem_nil, or_false,
      Bool.not_eq_true', decide_eq_false_iff_not]
    omega
  have hnewline : '\n' ∉ Emoji.replace cs := hreplaced.notMem (by decide)
  have htab : '\t' ∉ Emoji.replace cs := hreplaced.notMem (by decide)
  rw [longLine, hprinted, List.splitOn_eq_singleton hnewline, List.map_singleton, Text.expandTabs,
    List.splitOn_eq_singleton htab, Text.fillTabs]

theorem dropEmptyEnd_eq_self {lines : List (List Char)} (h : ∀ line ∈ lines, line ≠ []) :
    dropEmptyEnd lines = lines := by
  have hkept : lines.reverse.dropWhile (· == []) = lines.reverse := by
    rw [List.dropWhile_eq_self_iff]
    intro hpos
    have hne := h _ (List.mem_reverse.mp (List.getElem_mem hpos))
    simpa using hne
  rw [dropEmptyEnd, hkept, List.reverse_reverse]

/-! ## Reports of tables -/

/-- Something has been found, and it is to be shown as a pipe table of these rows. -/
structure IsPipeTable (o : Outcome) (rows : List (OrderedMap Value)) (fields : List String)
    (numbered : Bool) : Prop where
  ok : o.ok = true
  op : o.op = "query" ∨ o.op = "run_view"
  display : Value.lookup? "display" o.data = some (.text "markdown")
  rows : tablesOf (itemsOf (Value.lookup? "items" o.data)) = rows
  fields : textsOf (itemsOf (Value.lookup? "columns" o.data)) = fields
  numbered : (Value.orNull (Value.lookup? "numbered" o.data)).isTruthy = numbered

variable {o : Outcome} {rows : List (OrderedMap Value)} {fields : List String} {numbered : Bool}

theorem IsPipeTable.lines_eq (h : IsPipeTable o rows fields numbered) :
    lines o false = .ok ((PipeTable.charLines rows fields numbered).flatMap longLine) := by
  have hrecords : lines o false = recordLines o.data false := by
    unfold lines
    rw [h.ok]
    rcases h.op with hop | hop
    · rw [hop]
      rfl
    · rw [hop]
      rfl
  rw [hrecords, recordLines, h.display, h.rows, h.fields, h.numbered]
  simp

/-- The report holds the lines of the table with the codes in them replaced. -/
theorem IsPipeTable.plain_eq (h : IsPipeTable o rows fields numbered)
    (hlines : ∀ line ∈ PipeTable.charLines rows fields numbered, NoControl line) :
    plain o false = .ok (String.ofList
      (['\n'].intercalate ((PipeTable.charLines rows fields numbered).map Emoji.replace))) := by
  have hprinted : (PipeTable.charLines rows fields numbered).flatMap longLine =
      (PipeTable.charLines rows fields numbered).map Emoji.replace := by
    rw [List.map_eq_flatMap]
    exact List.flatMap_congr fun line hline => longLine_eq (hlines line hline)
  have hfull : ∀ line ∈ (PipeTable.charLines rows fields numbered).map Emoji.replace,
      line ≠ [] := by
    rw [List.forall_mem_map]
    intro line hline
    exact Emoji.replace_ne_nil (PipeTable.ne_nil_of_mem_charLines hline)
  unfold plain
  rw [h.lines_eq, hprinted]
  show Except.ok (String.ofList (['\n'].intercalate (dropEmptyEnd _))) = _
  rw [dropEmptyEnd_eq_self hfull]

theorem intercalate_ofList (lines : List (List Char)) :
    "\n".intercalate (lines.map String.ofList) = String.ofList (['\n'].intercalate lines) := by
  have hid : String.toList ∘ String.ofList = id := funext fun cs => String.toList_ofList
  rw [← String.toList_inj, String.toList_intercalate, String.toList_ofList, List.map_map, hid,
    List.map_id, String.toList_ofList]

/-- Lines without newlines can be told apart in a text. -/
theorem map_eq_self_of_intercalate_eq {f : List Char → List Char} {lines : List (List Char)}
    (hlines : ∀ line ∈ lines, '\n' ∉ line ∧ '\n' ∉ f line)
    (h : ['\n'].intercalate (lines.map f) = ['\n'].intercalate lines) : lines.map f = lines := by
  by_cases hnil : lines = []
  · rw [hnil]
    rfl
  · have hnil' : lines.map f ≠ [] := fun hmap => hnil (List.map_eq_nil_iff.mp hmap)
    have hmap : ∀ line ∈ lines.map f, '\n' ∉ line := by
      rw [List.forall_mem_map]
      intro line hline
      exact (hlines line hline).2
    rw [← List.splitOn_intercalate '\n' hmap hnil', h,
      List.splitOn_intercalate '\n' (fun line hline => (hlines line hline).1) hnil]

theorem IsPipeTable.plain_eq_lines_iff (h : IsPipeTable o rows fields numbered)
    (hlines : ∀ line ∈ PipeTable.charLines rows fields numbered, NoControl line) :
    plain o false = .ok ("\n".intercalate (PipeTable.lines rows fields numbered)) ↔
      ∀ line ∈ PipeTable.texts rows fields numbered, ∀ text ∈ line, Emoji.replace text = text := by
  have hnewline : ∀ line ∈ PipeTable.charLines rows fields numbered,
      '\n' ∉ line ∧ '\n' ∉ Emoji.replace line := by
    intro line hline
    have hcontrol := hlines line hline
    exact ⟨hcontrol.notMem (by decide), (noControl_replace hcontrol).notMem (by decide)⟩
  rw [h.plain_eq hlines, PipeTable.lines, intercalate_ofList, Except.ok.injEq, String.ofList_inj,
    ← PipeTable.map_replace_charLines_eq_iff]
  constructor
  · exact map_eq_self_of_intercalate_eq hnewline
  · intro heq
    rw [heq]

theorem tablesOf_map_entries {α : Type} (f : α → OrderedMap Value) (xs : List α) :
    tablesOf (xs.map fun x => .table (f x).entries) = xs.map f := by
  have hentries : ∀ m : OrderedMap Value, OrderedMap.ofList m.entries = m := by
    intro m
    exact OrderedMap.ext (OrderedMap.entries_ofList m.nodup)
  rw [tablesOf, List.filterMap_map, ← List.filterMap_eq_map]
  congr 1
  funext x
  exact congrArg some (hentries (f x))

theorem textsOf_map_text (names : List String) : textsOf (names.map .text) = names := by
  rw [textsOf, List.filterMap_map]
  exact List.filterMap_some

/-- What a query or a view finds is such a table, if it is displayed as one. -/
theorem isPipeTable_of_ask {h : Host} {s : Settings} {r : Request} {events : List Event}
    (hask : Vault.ask h s r = .ok ⟨o, events⟩) (hok : o.ok = true)
    (hop : r.op = "query" ∨ r.op = "run_view") (hdisplay : r.display.getD s.display = .markdown) :
    ∃ found : List Record,
      IsPipeTable o (found.map Record.row) (Vault.columns s r) r.numbered := by
  obtain ⟨dir, found, -, -, hdata⟩ := Vault.exists_found_of_ask hask hok
  refine ⟨found, hok, Vault.op_of_ask hask ▸ hop, ?_, ?_, ?_, ?_⟩
  · rw [hdata, Vault.answerData, hdisplay]
    rfl
  · rw [hdata]
    exact tablesOf_map_entries Record.row found
  · rw [hdata]
    exact textsOf_map_text (Vault.columns s r)
  · rw [hdata]
    rfl

/-- A title that is the code of an emoji is not shown as it is written. -/
theorem not_shows_every_table :
    let row : OrderedMap Value := .ofList [("title", .text ":1st_place_medal:")]
    let o : Outcome :=
      { ok := true
        op := "query"
        data := [("columns", .list [.text "title"]), ("display", .text "markdown"),
          ("items", .list [.table row.entries])] }
    IsPipeTable o [row] ["title"] false ∧ NoControl "title".toList ∧
      NoControl (PipeTable.cell row "title") ∧
      plain o false ≠ .ok ("\n".intercalate (PipeTable.lines [row] ["title"] false)) := by
  intro row o
  have ho : IsPipeTable o [row] ["title"] false := ⟨rfl, Or.inl rfl, rfl, rfl, rfl, rfl⟩
  have hname : NoControl "title".toList := by decide
  have hcell : NoControl (PipeTable.cell row "title") := by decide
  refine ⟨ho, hname, hcell, ?_⟩
  have hlines : ∀ line ∈ PipeTable.charLines [row] ["title"] false, NoControl line := by
    intro line hline
    exact PipeTable.noControl_of_mem_charLines (List.forall_mem_singleton.mpr hname)
      (List.forall_mem_singleton.mpr (List.forall_mem_singleton.mpr hcell)) hline
  rw [Ne, ho.plain_eq_lines_iff hlines]
  intro h
  have hmedal : Emoji.replace ":1st_place_medal:".toList ≠ ":1st_place_medal:".toList := by
    decide +kernel
  apply hmedal
  exact h [":1st_place_medal:".toList] (List.mem_cons_of_mem _ List.mem_cons_self) _
    List.mem_cons_self

/-- What the report of a pipe table is. -/
structure ShowsTable (o : Outcome) (rows : List (OrderedMap Value)) (fields : List String)
    (numbered : Bool) : Prop where
  /-- It holds the lines of the table with the codes in them replaced. -/
  lines : plain o false = .ok ("\n".intercalate
    (((PipeTable.charLines rows fields numbered).map Emoji.replace).map String.ofList))
  /-- They are replaced cell by cell, and each cell has been filled up before. -/
  cells : ∀ d ∈ PipeTable.drawn rows fields numbered, Emoji.replace d.chars = d.replaced.chars
  /-- The table is shown as it is written if and only if replacing codes changes no text of it. -/
  literally : plain o false = .ok ("\n".intercalate (PipeTable.lines rows fields numbered)) ↔
    ∀ line ∈ PipeTable.texts rows fields numbered, ∀ text ∈ line, Emoji.replace text = text

/-- Whatever else the texts of a table hold, markup included, is shown as it is written. -/
theorem shows_table (h : IsPipeTable o rows fields numbered)
    (hnames : ∀ name ∈ fields, NoControl name.toList)
    (hcells : ∀ row ∈ rows, ∀ name ∈ fields, NoControl (PipeTable.cell row name)) :
    ShowsTable o rows fields numbered := by
  have hlines : ∀ line ∈ PipeTable.charLines rows fields numbered, NoControl line := by
    intro line hline
    exact PipeTable.noControl_of_mem_charLines hnames hcells hline
  refine ⟨?_, ?_, h.plain_eq_lines_iff hlines⟩
  · rw [h.plain_eq hlines, intercalate_ofList]
  · intro d hd
    exact PipeTable.replace_drawn hd

/-- Brackets and times of day are shown as they are written. -/
theorem shows_table_of_brackets :
    let row : OrderedMap Value := .ofList [("title", .text "[b] 10:30")]
    let o : Outcome :=
      { ok := true
        op := "run_view"
        data := [("columns", .list [.text "title"]), ("display", .text "markdown"),
          ("numbered", .bool true), ("items", .list [.table row.entries])] }
    IsPipeTable o [row] ["title"] true ∧ (∀ name ∈ ["title"], NoControl name.toList) ∧
      (∀ r ∈ [row], ∀ name ∈ ["title"], NoControl (PipeTable.cell r name)) ∧
      plain o false = .ok "| # | title     |\n|---|-----------|\n| 1 | [b] 10:30 |" := by
  intro row o
  have ho : IsPipeTable o [row] ["title"] true := ⟨rfl, Or.inr rfl, rfl, rfl, rfl, rfl⟩
  have hnames : ∀ name ∈ ["title"], NoControl name.toList := by decide
  have hcells : ∀ r ∈ [row], ∀ name ∈ ["title"], NoControl (PipeTable.cell r name) := by
    rw [List.forall_mem_singleton, List.forall_mem_singleton]
    decide
  have hlines : "\n".intercalate (PipeTable.lines [row] ["title"] true) =
      "| # | title     |\n|---|-----------|\n| 1 | [b] 10:30 |" := by decide +kernel
  refine ⟨ho, hnames, hcells, ?_⟩
  rw [(shows_table ho hnames hcells).literally.mpr (by decide +kernel), hlines]

end Report

end NoteQuery
