import NoteQuery.Note.Document
import NoteQuery.Proofs.Text.Ends
import NoteQuery.Proofs.Text.Lines

/-!
# Blocks

A document has a block if its lines can be cut at two delimiters: the opening line is the first one,
and between it and the closing line no line is a delimiter. There is one such cut at most, so that
the block ends at the first delimiter behind the opening line, and nothing behind the closing line is
seen by the reader.

* `Cut`, `Cut.eq_of_lines`: the cut of the lines at the delimiters.
* `block?_eq_some_iff`: the body of a document is the middle part of its cut.
* `EndsInBlock`, `block?_append`: a text up to the closing line, with anything behind.
* `block_of_cut`: all of it, and documents without a block.
-/

namespace NoteQuery

/-! ## Identities -/

/-- The identity that a path tells: the path itself, the name behind its last slash, and the name
without `.md` at its end. -/
def FileIdentity.IsOf (file : FileIdentity) (path : String) : Prop :=
  ∃ folder name title : List Char, path.toList = folder ++ name ∧ '/' ∉ name ∧
    (folder = [] ∨ ∃ before, folder = before ++ ['/']) ∧
    (name = title ++ ".md".toList ∨ (title = name ∧ ¬ ".md".toList <:+ name)) ∧
    file = ⟨some path, some (String.ofList name), some (String.ofList title)⟩

theorem FileIdentity.isOf_ofPath (path : String) : (ofPath path).IsOf path := by
  obtain ⟨folder, hpath, hname, hfolder⟩ := Text.exists_afterLast '/' path.toList
  refine ⟨folder, _, _, hpath, hname, hfolder, ?_, rfl⟩
  by_cases hsuffix : ".md".toList <:+ Text.afterLast '/' path.toList
  · obtain ⟨title, htitle⟩ := hsuffix
    left
    rw [← htitle, Text.withoutEnd_append]
  · right
    exact ⟨Text.withoutEnd_of_not_suffix hsuffix, hsuffix⟩

namespace Document

/-! ## Delimiters -/

theorem isDelimiter_iff {l : List Char} : isDelimiter l ↔ Text.trimEnd l = "---".toList :=
  beq_iff_eq

theorem isDelimiter_eq_false_iff {l : List Char} :
    isDelimiter l = false ↔ Text.trimEnd l ≠ "---".toList :=
  beq_eq_false_iff_ne

/-- The lines before the first delimiter are the ones that no delimiter is among and that a delimiter
follows. -/
theorem untilDelimiter?_eq_some_iff {ls body : List (List Char)} :
    untilDelimiter? ls = some body ↔
      ∃ closing rest, ls = body ++ closing :: rest ∧ isDelimiter closing ∧
        ∀ l ∈ body, isDelimiter l = false := by
  constructor
  · intro h
    induction ls generalizing body with
    | nil => cases h
    | cons l ls ih =>
      rw [untilDelimiter?] at h
      split at h
      · rename_i hl
        cases h
        exact ⟨l, ls, rfl, hl, List.forall_mem_nil _⟩
      · rename_i hl
        obtain ⟨tail, htail, rfl⟩ := Option.map_eq_some_iff.mp h
        obtain ⟨closing, rest, rfl, hclosing, hinside⟩ := ih htail
        refine ⟨closing, rest, rfl, hclosing, List.forall_mem_cons.mpr ⟨?_, hinside⟩⟩
        exact Bool.eq_false_iff.mpr hl
  · rintro ⟨closing, rest, rfl, hclosing, hinside⟩
    induction body with
    | nil => simp [untilDelimiter?, hclosing]
    | cons l body ih =>
      obtain ⟨hl, hbody⟩ := List.forall_mem_cons.mp hinside
      simp [untilDelimiter?, hl, ih hbody]

/-! ## Cuts -/

/-- The lines of a document with a block, cut at the delimiters that enclose the body. -/
structure Cut where
  opening : List Char
  body : List (List Char)
  closing : List Char
  rest : List (List Char)
  opens : Text.trimEnd opening = "---".toList
  closes : Text.trimEnd closing = "---".toList
  inside : ∀ l ∈ body, Text.trimEnd l ≠ "---".toList

namespace Cut

def lines (c : Cut) : List (List Char) := c.opening :: (c.body ++ c.closing :: c.rest)

theorem untilDelimiter?_eq (c : Cut) :
    untilDelimiter? (c.body ++ c.closing :: c.rest) = some c.body :=
  untilDelimiter?_eq_some_iff.mpr ⟨c.closing, c.rest, rfl, isDelimiter_iff.mpr c.closes,
    fun l hl => isDelimiter_eq_false_iff.mpr (c.inside l hl)⟩

/-- Lines can be cut in one way at most. -/
theorem eq_of_lines {c c' : Cut} (h : c.lines = c'.lines) : c = c' := by
  obtain ⟨hopening, htail⟩ := List.cons.inj h
  -- The scan for the delimiter stops at one place, whatever the cut.
  have hbody : c.body = c'.body := by
    have huntil := c.untilDelimiter?_eq
    rw [htail, c'.untilDelimiter?_eq] at huntil
    exact (Option.some.inj huntil).symm
  rw [hbody, List.append_cancel_left_eq] at htail
  obtain ⟨hclosing, hrest⟩ := List.cons.inj htail
  cases c
  cases c'
  simp only at hopening hbody hclosing hrest
  subst hopening hbody hclosing hrest
  rfl

end Cut

theorem block?_eq_some_iff {content text : List Char} :
    block? content = some text ↔
      ∃ c : Cut, Text.lines content = c.lines ∧ text = ['\n'].intercalate c.body := by
  unfold block?
  constructor
  · intro h
    split at h
    · cases h
    · rename_i opening ls hlines
      split at h
      · rename_i hopening
        obtain ⟨body, hbody, rfl⟩ := Option.map_eq_some_iff.mp h
        obtain ⟨closing, rest, rfl, hclosing, hinside⟩ := untilDelimiter?_eq_some_iff.mp hbody
        exact ⟨⟨opening, body, closing, rest, isDelimiter_iff.mp hopening,
          isDelimiter_iff.mp hclosing, fun l hl => isDelimiter_eq_false_iff.mp (hinside l hl)⟩,
          hlines, rfl⟩
      · cases h
  · rintro ⟨c, hlines, rfl⟩
    rw [hlines, Cut.lines]
    dsimp only
    rw [if_pos (isDelimiter_iff.mpr c.opens), c.untilDelimiter?_eq, Option.map_some]

theorem block?_eq_none_iff {content : List Char} :
    block? content = none ↔ ¬ ∃ c : Cut, Text.lines content = c.lines := by
  rw [Option.eq_none_iff_forall_ne_some]
  constructor
  · rintro hnone ⟨c, hc⟩
    exact hnone _ (block?_eq_some_iff.mpr ⟨c, hc, rfl⟩)
  · rintro hnone text htext
    obtain ⟨c, hc, -⟩ := block?_eq_some_iff.mp htext
    exact hnone ⟨c, hc⟩

/-! ## What stands behind the block -/

/-- The last line of the text is the closing line of its block. -/
def EndsInBlock (front : List Char) : Prop := ∃ c : Cut, c.rest = [] ∧ Text.lines front = c.lines

theorem block?_append {front tail : List Char} (hfront : EndsInBlock front)
    (htail : Text.EndsLine tail) : block? (front ++ tail) = block? front := by
  obtain ⟨c, hrest, hlines⟩ := hfront
  obtain ⟨ls, hls⟩ := htail.exists_lines_append
  have hblock : block? front = some (['\n'].intercalate c.body) :=
    block?_eq_some_iff.mpr ⟨c, hlines, rfl⟩
  rw [hblock, block?_eq_some_iff]
  refine ⟨{ c with rest := ls }, ?_, rfl⟩
  rw [hls, hlines]
  simp [Cut.lines, hrest]

/-- A document with a block is a text that ends in its block, with anything behind the closing
line. -/
theorem exists_endsInBlock {content : List Char} {c : Cut} (h : Text.lines content = c.lines) :
    ∃ front tail, content = front ++ tail ∧ EndsInBlock front ∧ Text.EndsLine tail := by
  have hcut : Text.lines content = (c.opening :: (c.body ++ [c.closing])) ++ c.rest := by
    rw [h]
    simp [Cut.lines]
  obtain ⟨front, tail, hcontent, htail, hfront⟩ :=
    Text.exists_cut_of_lines (List.cons_ne_nil _ _) hcut
  exact ⟨front, tail, hcontent, ⟨{ c with rest := [] }, rfl, hfront⟩, htail⟩

/-! ## Documents -/

/-- A document has a body if and only if its lines can be cut at the delimiters, which can be done in
one way only; the body is then put together from the lines between them. The record does not depend
on what stands behind the closing line, and without a block it holds the identity of the file and
nothing else. -/
theorem block_of_cut (content : String) :
    (∀ text, block? content.toList = some text ↔
      ∃ c : Cut, Text.lines content.toList = c.lines ∧ text = ['\n'].intercalate c.body) ∧
    (∀ c c' : Cut, Text.lines content.toList = c.lines → Text.lines content.toList = c'.lines →
      c = c') ∧
    ((∃ c : Cut, Text.lines content.toList = c.lines) →
      ∃ front tail, content.toList = front ++ tail ∧ EndsInBlock front ∧ Text.EndsLine tail) ∧
    (∀ front tail, content.toList = front ++ tail → EndsInBlock front → Text.EndsLine tail →
      ∀ tail', Text.EndsLine tail' → ∀ path,
        record (String.ofList (front ++ tail')) path = record content path) ∧
    ((¬ ∃ c : Cut, Text.lines content.toList = c.lines) →
      ∀ path, (record content path).fields = .empty ∧ (record content path).file.IsOf path) := by
  refine ⟨fun text => block?_eq_some_iff, fun c c' hc hc' => Cut.eq_of_lines (hc.symm.trans hc'),
    fun ⟨c, hc⟩ => exists_endsInBlock hc, ?_, fun hnone path => ?_⟩
  · intro front tail hcontent hfront htail tail' htail' path
    have hblock : block? (front ++ tail') = block? content.toList := by
      rw [hcontent, block?_append hfront htail', block?_append hfront htail]
    rw [record, record, String.toList_ofList, fields, fields, hblock]
  · rw [record, fields, block?_eq_none_iff.mpr hnone]
    exact ⟨rfl, FileIdentity.isOf_ofPath path⟩

/-- Blanks behind the dashes of both delimiters, and two lines of dashes that are none: one is
indented and the other has four. The text behind the block begins with what would be another one. -/
theorem block_of_cut_of_dashes :
    let front := "--- \na: 1\n ---\n----\n---\t"
    let content := front ++ "\n---\nb: 2"
    block? content.toList = some "a: 1\n ---\n----".toList ∧
      record (front ++ "\nb: 3") "x.md" = record content "x.md" ∧
      (record "a: 1\n---" "n/x.md").fields = .empty := by
  intro front content
  let c : Cut := ⟨"--- ".toList, ["a: 1".toList, " ---".toList, "----".toList], "---\t".toList,
    ["---".toList, "b: 2".toList], by decide, by decide, by decide⟩
  have hlines : Text.lines content.toList = c.lines := by decide
  have hfront : EndsInBlock front.toList := ⟨{ c with rest := [] }, rfl, by decide⟩
  have hnone : ¬ ∃ c : Cut, Text.lines "a: 1\n---".toList = c.lines := by
    rintro ⟨c, hc⟩
    have hopens := c.opens
    rw [← (List.cons.inj hc).1] at hopens
    revert hopens
    decide
  obtain ⟨hblock, -, -, hbehind, -⟩ := block_of_cut content
  obtain ⟨-, -, -, -, hempty⟩ := block_of_cut "a: 1\n---"
  refine ⟨(hblock _).mpr ⟨c, hlines, by decide⟩, ?_, (hempty hnone "n/x.md").1⟩
  have hrecord := hbehind front.toList "\n---\nb: 2".toList String.toList_append hfront
    (Or.inr ⟨_, rfl⟩) "\nb: 3".toList (Or.inr ⟨_, rfl⟩) "x.md"
  rwa [← String.toList_append, String.ofList_toList] at hrecord

end Document

end NoteQuery
