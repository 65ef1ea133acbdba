import NoteQuery.Note.Document
import NoteQuery.Proofs.Text.Lines

/-!
# Line endings

A line ends in a newline, or in a carriage return and a newline, and the lines of one text need not
agree in that. A text without carriage returns has the same lines with returns before any of its
newlines, and so the same block, the same record and the same fields.

* `Text.withReturns`, `Text.lines_withReturns`: carriage returns before some newlines.
* `Document.withReturns_alike`: documents and bodies.
-/

namespace NoteQuery

namespace Text

/-- The text with a carriage return before each of the chosen newlines, which are numbered from
zero. -/
def withReturns (chosen : Nat → Bool) : List Char → List Char
  | [] => []
  | c :: cs =>
    if c = '\n' then
      let rest := withReturns (fun n => chosen (n + 1)) cs
      if chosen 0 then '\r' :: '\n' :: rest else '\n' :: rest
    else c :: withReturns chosen cs

theorem lines_withReturns {cs : List Char} (h : '\r' ∉ cs) (chosen : Nat → Bool) :
    lines (withReturns chosen cs) = lines cs := by
  -- Behind a newline the numbering starts again, so the induction is over all choices.
  induction cs generalizing chosen with
  | nil => rfl
  | cons c cs ih =>
    have hreturn : c ≠ '\r' := fun hc => h (hc ▸ List.mem_cons_self)
    have ih := ih fun hmem => h (List.mem_cons_of_mem c hmem)
    by_cases hnewline : c = '\n'
    · subst hnewline
      simp only [withReturns, if_true]
      split
      · rw [lines_return_newline_cons, lines_newline_cons, ih]
      · rw [lines_newline_cons, lines_newline_cons, ih]
    · rw [withReturns, if_neg hnewline, lines_cons hnewline hreturn, lines_cons hnewline hreturn,
        ih]

/-- Of two returns before a newline the first one belongs to the line. -/
example : lines ['x', '\r', '\n'] = [['x'], []] ∧
    lines (withReturns (fun _ => true) ['x', '\r', '\n']) = [['x', '\r'], []] := by decide

end Text

/-! ## Documents and bodies -/

theorem Body.parse_congr {body body' : List Char} (h : Text.lines body = Text.lines body') :
    parse body = parse body' := by
  rw [parse, parse, h]

namespace Document

theorem block?_congr {content content' : List Char}
    (h : Text.lines content = Text.lines content') : block? content = block? content' := by
  rw [block?, block?, h]

/-- Carriage returns before the newlines of a text that has none do not count: its block and its
record as a document, and its fields and the items without a list as a body, stay the same. -/
theorem withReturns_alike {text : List Char} (h : '\r' ∉ text) (chosen : Nat → Bool) :
    block? (Text.withReturns chosen text) = block? text ∧
      (∀ path, record (String.ofList (Text.withReturns chosen text)) path =
        record (String.ofList text) path) ∧
      Body.fields (Text.withReturns chosen text) = Body.fields text ∧
      Body.strayItems (Text.withReturns chosen text) = Body.strayItems text := by
  have hlines := Text.lines_withReturns h chosen
  have hblock := block?_congr hlines
  have hparse := Body.parse_congr hlines
  refine ⟨hblock, fun path => ?_, ?_, ?_⟩
  · rw [record, record, String.toList_ofList, String.toList_ofList, fields, fields, hblock]
  · rw [Body.fields, Body.fields, hparse]
  · rw [Body.strayItems, Body.strayItems, hparse]

/-- Returns at the opening delimiter and at an item, but not at the key line between them; the closing
delimiter has no newline at all. -/
theorem withReturns_alike_of_mixed :
    let text := "---\na:\n- x\n---".toList
    let text' := "---\r\na:\n- x\r\n---".toList
    '\r' ∉ text ∧ Text.withReturns (fun n => n != 1) text = text' ∧
      block? text' = some "a:\n- x".toList ∧
      (record (String.ofList text') "x.md").get "a" = .list [.text "x"] := by
  intro text text'
  have hnone : '\r' ∉ text := by decide
  have htext' : Text.withReturns (fun n => n != 1) text = text' := by decide
  obtain ⟨hblock, hrecord, -⟩ := withReturns_alike hnone fun n => n != 1
  rw [htext'] at hblock hrecord
  refine ⟨hnone, htext', ?_, ?_⟩
  · rw [hblock]
    decide
  · rw [hrecord, String.ofList_toList]
    rfl

end Document

end NoteQuery
