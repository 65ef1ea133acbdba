import Mathlib.Data.List.Forall2
import NoteQuery.Proofs.Note.Blocks
import NoteQuery.Proofs.Note.LineKinds
import NoteQuery.Proofs.Note.ScalarTexts

/-!
# Blanks at the ends of lines

Spaces and tabs at the end of a line of a document do not count, whatever kind of line it is, with one
exception: a hyphen alone in its line is no item with fewer than two blanks behind it, and is an item
without a value with two or more.

* `Body.Line.Same`, `Body.entries_same`: lines that count alike.
* `Body.same_ofText`: lines that differ in blanks at their ends.
* `Document.fields_congr`: documents whose lines count alike.
* `Document.not_record_eq_of_padsLines`, `Document.record_of_padsLines`: blanks at the ends of lines.
-/

namespace NoteQuery

namespace Body

/-! ## Lines that read alike -/

/-- Lines that count alike: key lines with the same name and the same text up to blanks, items with
the same value, and lines that do not count. -/
inductive Line.Same : Line → Line → Prop
  | key (name : List Char) {text text' : List Char} (trim : Text.trim text = Text.trim text') :
      Same (.key name text) (.key name text')
  | item {i i' : Item} (value : Scalar.read i.text = Scalar.read i'.text) :
      Same (.item i) (.item i')
  | other : Same .other .other

def Section.Same (s s' : Section) : Prop :=
  s.name = s'.name ∧ Text.trim s.text = Text.trim s'.text ∧
    s.items.map (fun i => Scalar.read i.text) = s'.items.map fun i => Scalar.read i.text

theorem Section.Same.entry_eq {s s' : Section} (h : s.Same s') : s.entry = s'.entry := by
  obtain ⟨hname, htrim, hitems⟩ := h
  rw [entry, value, isBlock, hname, htrim, hitems, Scalar.readList?_eq_of_trim htrim,
    Scalar.read_eq_of_trim htrim, entry, value, isBlock]

theorem sections_same {ls ls' : List Line} (h : List.Forall₂ Line.Same ls ls') :
    (sections ls).1.map (fun i => Scalar.read i.text) =
        (sections ls').1.map (fun i => Scalar.read i.text) ∧
      List.Forall₂ Section.Same (sections ls).2 (sections ls').2 := by
  induction h with
  | nil => exact ⟨rfl, .nil⟩
  | cons hline _ ih =>
    cases hline with
    | key name trim => exact ⟨rfl, .cons ⟨rfl, trim, ih.1⟩ ih.2⟩
    | item value => exact ⟨by simp only [sections, List.map_cons, value, ih.1], ih.2⟩
    | other => exact ih

theorem entries_same {ls ls' : List Line} (h : List.Forall₂ Line.Same ls ls') :
    (sections ls).2.map Section.entry = (sections ls').2.map Section.entry := by
  have hentries : List.Forall₂ Eq ((sections ls).2.map Section.entry)
      ((sections ls').2.map Section.entry) := by
    rw [List.forall₂_map_left_iff, List.forall₂_map_right_iff]
    exact (sections_same h).2.imp fun _ _ => Section.Same.entry_eq
  rwa [List.forall₂_eq_eq_eq] at hentries

/-! ## Blanks at the end of a line -/

/-- Whether there is nothing in the line but a hyphen and at least two blanks behind it. -/
def isNullItem (line : List Char) : Bool :=
  match Text.trimStart line with
  | '-' :: gap => gap.all Text.isBlank && 2 ≤ gap.length
  | _ => false

variable {line line' name text : List Char}

theorem isNullItem_iff : isNullItem line ↔
    ∃ gap, Text.trimStart line = '-' :: gap ∧ (∀ c ∈ gap, Text.isBlank c) ∧ 2 ≤ gap.length := by
  unfold isNullItem
  split
  · rename_i gap hstart
    simp [hstart]
  · rename_i hne
    constructor
    · intro h
      cases h
    · rintro ⟨gap, hstart, -⟩
      exact absurd hstart (hne gap)

/-- A line of only a hyphen and blanks is an item without a value. -/
theorem exists_item_of_isNullItem (h : isNullItem line) :
    ∃ i, Line.ofText line = .item i ∧ Scalar.read i.text = .null := by
  obtain ⟨gap, hstart, hblank, hlength⟩ := isNullItem_iff.mp h
  obtain ⟨indent, hline, hindent⟩ := Text.exists_trimStart line
  rcases List.eq_nil_or_concat gap with rfl | ⟨front, c, rfl⟩
  · simp at hlength
  · rw [List.concat_eq_append] at hstart hblank hlength
    have hitem : IsItemLine line [c] := by
      refine ⟨indent, front, by rw [← hstart]; exact hline, hindent, ?_, ?_, by simp⟩
      · rintro rfl
        simp at hlength
      · exact fun d hd => hblank d (List.mem_append_left _ hd)
    obtain ⟨i, hi, htrim⟩ := hitem.exists_ofText
    have hnil : Text.trim [c] = [] := Text.trim_eq_nil_iff.mpr (by simpa using hblank c (by simp))
    exact ⟨i, hi, Scalar.read_of_blank (htrim.trans hnil)⟩

theorem IsItemLine.isNullItem (h : IsItemLine line text) (htrim : Text.trim text = []) :
    isNullItem line := by
  obtain ⟨gap, hstart, hne, hgap, htext⟩ := h.trimStart
  refine isNullItem_iff.mpr ⟨gap ++ text, hstart, fun c hc => ?_, ?_⟩
  · rcases List.mem_append.mp hc with hc | hc
    · exact hgap c hc
    · exact Text.trim_eq_nil_iff.mp htrim c hc
  · have hgap := List.length_pos_iff.mpr hne
    have htext := List.length_pos_iff.mpr htext
    rw [List.length_append]
    omega

/-- Two lines that differ in blanks at their ends. -/
theorem exists_append_of_trimEnd_eq (h : Text.trimEnd line = Text.trimEnd line') :
    ∃ bs, line' = Text.trimEnd line ++ bs ∧ ∀ c ∈ bs, Text.isBlank c := by
  rw [h]
  exact Text.exists_trimEnd line'

theorem IsKeyLine.of_trimEnd_eq (h : IsKeyLine line name text)
    (hend : Text.trimEnd line = Text.trimEnd line') :
    ∃ text', IsKeyLine line' name text' ∧ Text.trim text' = Text.trim text := by
  obtain ⟨bs, hline', hbs⟩ := exists_append_of_trimEnd_eq hend
  refine ⟨Text.trimEnd text ++ bs, ⟨?_, h.ne_nil, h.word⟩, ?_⟩
  · rw [hline', h.eq, Text.trimEnd_append_cons (by decide), List.append_assoc, List.cons_append]
  · rw [Text.trim_append_blanks_end hbs, Text.trim_trimEnd]

theorem IsItemLine.of_trimEnd_eq (h : IsItemLine line text) (hne : Text.trim text ≠ [])
    (hend : Text.trimEnd line = Text.trimEnd line') :
    ∃ text', IsItemLine line' text' ∧ Text.trim text' = Text.trim text := by
  obtain ⟨bs, hline', hbs⟩ := exists_append_of_trimEnd_eq hend
  obtain ⟨indent, gap, rfl, hindent, hgap, hblank, -⟩ := h
  have htext := Text.trimEnd_ne_nil hne
  refine ⟨Text.trimEnd text ++ bs, ⟨indent, gap, ?_, hindent, hgap, hblank, ?_⟩, ?_⟩
  · rw [hline', Text.trimEnd_append_cons (by decide), Text.trimEnd_append_of_ne_nil htext,
      List.append_assoc, List.cons_append, List.append_assoc]
  · exact List.append_ne_nil_of_left_ne_nil htext bs
  · rw [Text.trim_append_blanks_end hbs, Text.trim_trimEnd]

theorem exists_key_of_trimEnd_eq (h : Line.ofText line = .key name text)
    (hend : Text.trimEnd line = Text.trimEnd line') :
    ∃ text', Line.ofText line' = .key name text' ∧ Text.trim text = Text.trim text' := by
  obtain ⟨t, hkey, rfl⟩ := ofText_eq_key_iff.mp h
  obtain ⟨t', hkey', htrim⟩ := hkey.of_trimEnd_eq hend
  refine ⟨_, ofText_eq_key_iff.mpr ⟨t', hkey', rfl⟩, ?_⟩
  rw [Text.trim_trimStart, Text.trim_trimStart, htrim]

theorem exists_item_of_trimEnd_eq {i : Item} (h : Line.ofText line = .item i)
    (hend : Text.trimEnd line = Text.trimEnd line') (hnull : isNullItem line → isNullItem line') :
    ∃ i', Line.ofText line' = .item i' ∧ Scalar.read i.text = Scalar.read i'.text := by
  have hitem := isItemLine_of_ofText h
  by_cases htrim : Text.trim i.text = []
  · -- the line has no text but a blank, and only here does the number of blanks count
    obtain ⟨i', hi', hread⟩ := exists_item_of_isNullItem (hnull (hitem.isNullItem htrim))
    exact ⟨i', hi', (Scalar.read_of_blank htrim).trans hread.symm⟩
  · obtain ⟨text', hitem', htext⟩ := hitem.of_trimEnd_eq htrim hend
    obtain ⟨i', hi', htrim'⟩ := hitem'.exists_ofText
    exact ⟨i', hi', Scalar.read_eq_of_trim (htrim'.trans htext).symm⟩

/-- Lines that differ in blanks at their ends count alike, if both or none of them are hyphens with
at least two blanks. -/
theorem same_ofText (hend : Text.trimEnd line = Text.trimEnd line')
    (hnull : isNullItem line ↔ isNullItem line') :
    Line.Same (Line.ofText line) (Line.ofText line') := by
  cases h : Line.ofText line with
  | key name text =>
    obtain ⟨text', h', htrim⟩ := exists_key_of_trimEnd_eq h hend
    rw [h']
    exact .key name htrim
  | item i =>
    obtain ⟨i', h', hread⟩ := exists_item_of_trimEnd_eq h hend hnull.mp
    rw [h']
    exact .item hread
  | other =>
    cases h' : Line.ofText line' with
    | key name text' =>
      obtain ⟨text, hkey, -⟩ := exists_key_of_trimEnd_eq h' hend.symm
      rw [h] at hkey
      cases hkey
    | item i' =>
      obtain ⟨i, hitem, -⟩ := exists_item_of_trimEnd_eq h' hend.symm hnull.mpr
      rw [h] at hitem
      cases hitem
    | other => exact .other

end Body

namespace Document

/-! ## Blocks -/

/-- The lines of the body of the leading block. -/
def bodyLines? : List (List Char) → Option (List (List Char))
  | [] => none
  | l :: ls => if isDelimiter l then untilDelimiter? ls else none

theorem mem_of_bodyLines? {ls body : List (List Char)} (h : bodyLines? ls = some body)
    {l : List Char} (hl : l ∈ body) : l ∈ ls := by
  unfold bodyLines? at h
  split at h
  · cases h
  · split at h
    · obtain ⟨closing, rest, rfl, -⟩ := untilDelimiter?_eq_some_iff.mp h
      exact List.mem_cons_of_mem _ (List.mem_append_left _ hl)
    · cases h

/-- Putting the lines of a body together and cutting them again takes off carriage returns once
more. -/
theorem fields_intercalate {ls : List (List Char)} (h : ∀ l ∈ ls, '\n' ∉ l) :
    Body.fields (['\n'].intercalate ls) = OrderedMap.ofList ((Body.sections
      (ls.map fun l => Body.Line.ofText (Text.withoutReturn l))).2.map Body.Section.entry) := by
  rw [Body.fields, Body.parse]
  cases ls with
  | nil => rfl
  | cons l ls =>
    rw [Text.lines, List.splitOn_intercalate '\n' h (List.cons_ne_nil _ _), List.map_map]
    rfl

theorem fields_eq (content : List Char) :
    fields content = match bodyLines? (Text.lines content) with
      | some ls => OrderedMap.ofList ((Body.sections
          (ls.map fun l => Body.Line.ofText (Text.withoutReturn l))).2.map Body.Section.entry)
      | none => .empty := by
  have hblock : block? content =
      (bodyLines? (Text.lines content)).map (['\n'].intercalate ·) := by
    unfold block? bodyLines?
    cases Text.lines content with
    | nil => rfl
    | cons l ls =>
      dsimp only
      split <;> rfl
  rw [fields, hblock]
  cases h : bodyLines? (Text.lines content) with
  | none => rfl
  | some ls =>
    exact fields_intercalate fun l hl => Text.newline_notMem_of_mem_lines (mem_of_bodyLines? h hl)

/-- Lines of documents that count alike: both are delimiters or none is, and they count alike in a
body. -/
def Same (l l' : List Char) : Prop :=
  isDelimiter l = isDelimiter l' ∧
    Body.Line.Same (.ofText (Text.withoutReturn l)) (.ofText (Text.withoutReturn l'))

theorem untilDelimiter?_same {ls ls' : List (List Char)} (h : List.Forall₂ Same ls ls') :
    Option.Rel (List.Forall₂ Same) (untilDelimiter? ls) (untilDelimiter? ls') := by
  induction h with
  | nil => exact .none
  | @cons l l' ls ls' hline _ ih =>
    rw [untilDelimiter?, untilDelimiter?, hline.1]
    split
    · exact .some .nil
    · generalize untilDelimiter? ls = body, untilDelimiter? ls' = body' at ih ⊢
      cases ih with
      | none => exact .none
      | some hbody => exact .some (.cons hline hbody)

theorem bodyLines?_same {ls ls' : List (List Char)} (h : List.Forall₂ Same ls ls') :
    Option.Rel (List.Forall₂ Same) (bodyLines? ls) (bodyLines? ls') := by
  cases h with
  | nil => exact .none
  | cons hline hlines =>
    rw [bodyLines?, bodyLines?, hline.1]
    split
    · exact untilDelimiter?_same hlines
    · exact .none

/-- Documents whose lines count alike have the same fields. -/
theorem fields_congr {content content' : List Char}
    (h : List.Forall₂ Same (Text.lines content) (Text.lines content')) :
    fields content = fields content' := by
  have hsame := bodyLines?_same h
  rw [fields_eq, fields_eq]
  generalize bodyLines? (Text.lines content) = body, bodyLines? (Text.lines content') = body'
    at hsame ⊢
  cases hsame with
  | none => rfl
  | some hbody =>
    have hlines := hbody.imp fun _ _ hline => hline.2
    exact congrArg OrderedMap.ofList
      (Body.entries_same (List.forall₂_map_left_iff.mpr (List.forall₂_map_right_iff.mpr hlines)))

/-! ## Blanks at the ends of lines -/

/-- A line and the line with spaces and tabs at its end. If it ends in a carriage return they may
stand before the return too. -/
def Pads (l l' : List Char) : Prop :=
  ∃ front run ret, l = front ++ ret ∧ l' = front ++ run ++ ret ∧
    (∀ c ∈ run, c = ' ' ∨ c = '\t') ∧ (ret = [] ∨ ret = ['\r'])

/-- A line as the body has it. -/
def bodyLine (l : List Char) : List Char := Text.withoutReturn (Text.withoutReturn l)

theorem exists_bodyLine (l : List Char) :
    ∃ ret, l = bodyLine l ++ ret ∧ ∀ c ∈ ret, Text.isBlank c := by
  obtain ⟨ret, hl, hret⟩ := Text.exists_withoutReturn l
  obtain ⟨ret', hl', hret'⟩ := Text.exists_withoutReturn (Text.withoutReturn l)
  refine ⟨ret' ++ ret, ?_, List.forall_mem_append.mpr ⟨hret', hret⟩⟩
  rw [← List.append_assoc]
  rw [hl'] at hl
  exact hl

theorem withoutReturn_append {run : List Char} (hne : run ≠ [])
    (hrun : ∀ c ∈ run, c = ' ' ∨ c = '\t') (front : List Char) :
    Text.withoutReturn (front ++ run) = front ++ run := by
  apply Text.withoutReturn_eq_self
  rw [List.getLast?_append_of_ne_nil _ hne]
  intro hlast
  rcases hrun _ (List.mem_of_getLast? hlast) with h | h <;> cases h

/-- In the body the line has blanks at its end, or it is the same line. -/
theorem Pads.exists_bodyLine {l l' : List Char} (h : Pads l l') :
    ∃ bs, bodyLine l' = bodyLine l ++ bs ∧ ∀ c ∈ bs, Text.isBlank c := by
  obtain ⟨front, run, ret, rfl, rfl, hrun, hret⟩ := h
  have hblank : ∀ c ∈ run, Text.isBlank c := by
    intro c hc
    rcases hrun c hc with rfl | rfl <;> decide
  by_cases hne : run = []
  · subst hne
    exact ⟨[], by simp, fun _ hc => by cases hc⟩
  have hrun := withoutReturn_append hne hrun
  rcases hret with rfl | rfl
  · obtain ⟨ret, hfront, hret⟩ := Document.exists_bodyLine front
    refine ⟨ret ++ run, ?_, List.forall_mem_append.mpr ⟨hret, hblank⟩⟩
    rw [List.append_nil, List.append_nil, ← List.append_assoc, ← hfront, bodyLine, hrun, hrun]
  · obtain ⟨ret, hfront, hret⟩ := Text.exists_withoutReturn front
    refine ⟨ret ++ run, ?_, List.forall_mem_append.mpr ⟨hret, hblank⟩⟩
    rw [bodyLine, bodyLine, Text.withoutReturn_concat, Text.withoutReturn_concat, if_pos rfl,
      if_pos rfl, hrun, ← List.append_assoc, ← hfront]

theorem Pads.trimEnd_eq {l l' : List Char} (h : Pads l l') :
    Text.trimEnd (bodyLine l') = Text.trimEnd (bodyLine l) := by
  obtain ⟨bs, hl', hbs⟩ := h.exists_bodyLine
  rw [hl', Text.trimEnd_append_blanks _ hbs]

/-- Blanks never turn a hyphen with two blanks into anything else. -/
theorem Pads.isNullItem {l l' : List Char} (h : Pads l l') (hnull : Body.isNullItem (bodyLine l)) :
    Body.isNullItem (bodyLine l') := by
  obtain ⟨bs, hl', hbs⟩ := h.exists_bodyLine
  obtain ⟨gap, hstart, hgap, hlength⟩ := Body.isNullItem_iff.mp hnull
  refine Body.isNullItem_iff.mpr ⟨gap ++ bs, ?_, List.forall_mem_append.mpr ⟨hgap, hbs⟩, ?_⟩
  · rw [hl', Text.trimStart, List.dropWhile_append, ← Text.trimStart, hstart]
    rfl
  · rw [List.length_append]
    omega

/-- The line that a document with blanks at the ends of its lines is read like: a hyphen that has got
its two blanks is an item without a value, and every other line is as it was. -/
def readLike (l l' : List Char) : List Char :=
  if Body.isNullItem (bodyLine l') then "- null".toList else l

theorem Pads.same {l l' : List Char} (h : Pads l l')
    (hnull : Body.isNullItem (bodyLine l') → Body.isNullItem (bodyLine l)) :
    Same (Text.withoutReturn l') (Text.withoutReturn l) := by
  refine ⟨?_, Body.same_ofText h.trimEnd_eq ⟨hnull, h.isNullItem⟩⟩
  have hend := h.trimEnd_eq
  simp only [bodyLine, Text.trimEnd_withoutReturn] at hend
  simp only [isDelimiter, Text.trimEnd_withoutReturn, hend]

theorem not_isDelimiter_of_isNullItem {l : List Char} (hnull : Body.isNullItem (bodyLine l)) :
    isDelimiter (Text.withoutReturn l) = false := by
  obtain ⟨gap, hstart, hgap, -⟩ := Body.isNullItem_iff.mp hnull
  have htrim : Text.trim (bodyLine l) = ['-'] := by
    rw [Text.trim, hstart, Text.trimEnd_cons_of_not_blank (by decide),
      Text.trimEnd_eq_nil_of_blank hgap]
  rw [isDelimiter_eq_false_iff, ← Text.trimEnd_withoutReturn]
  intro hdelimiter
  rw [← Text.trim_trimEnd, bodyLine, hdelimiter] at htrim
  revert htrim
  decide

theorem same_null {l : List Char} (hnull : Body.isNullItem (bodyLine l)) :
    Same (Text.withoutReturn l) (Text.withoutReturn "- null".toList) := by
  obtain ⟨i, hi, hread⟩ := Body.exists_item_of_isNullItem hnull
  refine ⟨not_isDelimiter_of_isNullItem hnull, ?_⟩
  rw [← bodyLine, hi]
  exact .item (hread.trans rfl)

theorem Pads.same_readLike {l l' : List Char} (h : Pads l l') :
    Same (Text.withoutReturn l') (Text.withoutReturn (readLike l l')) := by
  unfold readLike
  split
  · rename_i hnull
    exact same_null hnull
  · rename_i hnull
    exact h.same fun hnull' => absurd hnull' hnull

/-! ## Documents -/

/-- The lines of a document with their ends. -/
def rawLines (content : String) : List (List Char) := content.toList.splitOn '\n'

/-- A document and the document with spaces and tabs at the ends of some of its lines. -/
def PadsLines (content content' : String) : Prop :=
  List.Forall₂ Pads (rawLines content) (rawLines content')

/-- The document with an item without a value for every hyphen that has got its two blanks. -/
def withNullItems (content content' : String) : String :=
  String.ofList (['\n'].intercalate
    (((rawLines content).zip (rawLines content')).map fun p => readLike p.1 p.2))

/-- Documents whose lines count alike have the same record. -/
theorem record_congr {content content' : String}
    (h : List.Forall₂ (fun l l' => Same (Text.withoutReturn l) (Text.withoutReturn l'))
      (rawLines content) (rawLines content')) (path : String) :
    record content path = record content' path := by
  rw [record, record, fields_congr]
  rw [Text.lines, Text.lines, List.forall₂_map_left_iff, List.forall₂_map_right_iff]
  exact h

theorem newline_notMem_readLike {l : List Char} (h : '\n' ∉ l) (l' : List Char) :
    '\n' ∉ readLike l l' := by
  unfold readLike
  split
  · decide
  · exact h

theorem rawLines_withNullItems (content content' : String) :
    rawLines (withNullItems content content') =
      ((rawLines content).zip (rawLines content')).map fun p => readLike p.1 p.2 := by
  rw [rawLines, withNullItems, String.toList_ofList, List.splitOn_intercalate]
  · intro m hm
    obtain ⟨p, hp, rfl⟩ := List.mem_map.mp hm
    exact newline_notMem_readLike (Text.notMem_of_mem_splitOn (List.of_mem_zip hp).1) p.2
  · simp [rawLines]

theorem same_readLike {ls ls' : List (List Char)} (h : List.Forall₂ Pads ls ls') :
    List.Forall₂ (fun l l' => Same (Text.withoutReturn l) (Text.withoutReturn l')) ls'
      ((ls.zip ls').map fun p => readLike p.1 p.2) := by
  induction h with
  | nil => exact .nil
  | cons hpads _ ih => exact .cons hpads.same_readLike ih

theorem same_of_not_isNullItem {ls ls' : List (List Char)} (h : List.Forall₂ Pads ls ls')
    (hnull : ∀ p ∈ ls.zip ls', Body.isNullItem (bodyLine p.2) → Body.isNullItem (bodyLine p.1)) :
    List.Forall₂ (fun l l' => Same (Text.withoutReturn l) (Text.withoutReturn l')) ls' ls := by
  induction h with
  | nil => exact .nil
  | cons hpads _ ih =>
    obtain ⟨hline, hlines⟩ := List.forall_mem_cons.mp hnull
    exact .cons (hpads.same hline) (ih hlines)

/-- A hyphen alone in a line is no item, and with two blanks behind it is one. -/
theorem not_record_eq_of_padsLines :
    PadsLines "---\na:\n-\n---\n" "---\na:\n-  \n---\n" ∧
      (record "---\na:\n-\n---\n" "x.md").get "a" = .list [] ∧
      (record "---\na:\n-  \n---\n" "x.md").get "a" = .list [.null] ∧
      ¬ ∀ content content' path, PadsLines content content' →
        record content' path = record content path := by
  have hpads : PadsLines "---\na:\n-\n---\n" "---\na:\n-  \n---\n" := by
    have hrefl (l : List Char) : Pads l l := ⟨l, [], [], by simp⟩
    refine .cons (hrefl _) (.cons (hrefl _) (.cons ?_ (.cons (hrefl _) (.cons (hrefl _) .nil))))
    exact ⟨['-'], [' ', ' '], [], rfl, rfl, by simp, Or.inl rfl⟩
  have hbefore : (record "---\na:\n-\n---\n" "x.md").get "a" = .list [] := rfl
  have hafter : (record "---\na:\n-  \n---\n" "x.md").get "a" = .list [.null] := rfl
  refine ⟨hpads, hbefore, hafter, fun hall => ?_⟩
  rw [hall _ _ "x.md" hpads, hbefore] at hafter
  cases hafter

/-- Spaces and tabs at the ends of lines do not count unless a hyphen alone in its line gets its two
blanks by them; and then such a line counts as an item without a value, and no other line counts
otherwise than before. -/
theorem record_of_padsLines {content content' : String} (h : PadsLines content content')
    (path : String) :
    ((∀ p ∈ (rawLines content).zip (rawLines content'),
        Body.isNullItem (bodyLine p.2) → Body.isNullItem (bodyLine p.1)) →
      record content' path = record content path) ∧
    record content' path = record (withNullItems content content') path := by
  refine ⟨fun hnull => record_congr (same_of_not_isNullItem h hnull) path, ?_⟩
  apply record_congr
  rw [rawLines_withNullItems]
  exact same_readLike h

/-- Blanks at the end of a delimiter, of a key line, of an item before its carriage return, and one
blank behind a hyphen. -/
theorem record_of_padsLines_of_each :
    PadsLines "---\na:\n- x\r\n-\n---\n" "--- \na:\t\n- x \r\n- \n---\n" ∧
      (∀ p ∈ (rawLines "---\na:\n- x\r\n-\n---\n").zip
          (rawLines "--- \na:\t\n- x \r\n- \n---\n"),
        Body.isNullItem (bodyLine p.2) → Body.isNullItem (bodyLine p.1)) ∧
      record "--- \na:\t\n- x \r\n- \n---\n" "x.md" =
        record "---\na:\n- x\r\n-\n---\n" "x.md" := by
  have hpads :
      PadsLines "---\na:\n- x\r\n-\n---\n" "--- \na:\t\n- x \r\n- \n---\n" := by
    refine .cons ?_ (.cons ?_ (.cons ?_ (.cons ?_ (.cons ?_ (.cons ?_ .nil)))))
    · exact ⟨['-', '-', '-'], [' '], [], rfl, rfl, by simp, Or.inl rfl⟩
    · exact ⟨['a', ':'], ['\t'], [], rfl, rfl, by simp, Or.inl rfl⟩
    · exact ⟨['-', ' ', 'x'], [' '], ['\r'], rfl, rfl, by simp, Or.inr rfl⟩
    · exact ⟨['-'], [' '], [], rfl, rfl, by simp, Or.inl rfl⟩
    · exact ⟨['-', '-', '-'], [], [], rfl, rfl, by simp, Or.inl rfl⟩
    · exact ⟨[], [], [], rfl, rfl, by simp, Or.inl rfl⟩
  have hnull : ∀ p ∈ (rawLines "---\na:\n- x\r\n-\n---\n").zip
        (rawLines "--- \na:\t\n- x \r\n- \n---\n"),
      Body.isNullItem (bodyLine p.2) → Body.isNullItem (bodyLine p.1) := by decide
  exact ⟨hpads, hnull, (record_of_padsLines hpads "x.md").1 hnull⟩

end Document

end NoteQuery
