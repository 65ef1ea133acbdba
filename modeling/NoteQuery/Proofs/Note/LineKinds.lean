import NoteQuery.Note.Body
import NoteQuery.Proofs.Text.Lines

/-!
# The kinds of lines

The two kinds of lines that count in a body, as patterns, and the proof that reading a line finds
out its kind. A line of neither pattern counts for nothing; blank lines and comments are of neither.

* `keyLine?_eq_some_iff`, `ofText_eq_key_iff`: key lines.
* `isItemLine_of_itemText?`, `exists_itemText?`: item lines and the text of their item up to blanks.
-/

namespace NoteQuery.Body

/-- `line` is a key line: word characters at its very start, a colon, and `text` after it. -/
structure IsKeyLine (line name text : List Char) : Prop where
  eq : line = name ++ ':' :: text
  ne_nil : name ≠ []
  word : ∀ c ∈ name, Text.isWord c

/-- `line` is an item line: blanks or nothing, a hyphen, blanks, and at least one more character.
If that character is a blank too, the line can be cut in several ways. -/
def IsItemLine (line text : List Char) : Prop :=
  ∃ indent gap, line = indent ++ '-' :: (gap ++ text) ∧ (∀ c ∈ indent, Text.isBlank c) ∧
    gap ≠ [] ∧ (∀ c ∈ gap, Text.isBlank c) ∧ text ≠ []

/-! ## Key lines -/

theorem keyLine?_eq_some_iff {line name t : List Char} :
    keyLine? line = some (name, t) ↔
      ∃ text, IsKeyLine line name text ∧ t = Text.trimStart text := by
  constructor
  · intro h
    simp only [keyLine?] at h
    split at h
    · rename_i rest hrest
      split at h
      · cases h
      · rename_i hne
        cases h
        refine ⟨rest, ⟨?_, by simpa using hne, ?_⟩, rfl⟩
        · rw [← hrest, List.takeWhile_append_dropWhile]
        · exact fun c hc => List.all_eq_true.mp List.all_takeWhile c hc
    · cases h
  · rintro ⟨text, ⟨rfl, hne, hword⟩, rfl⟩
    have hcolon : Text.isWord ':' = false := by decide
    have htake : (name ++ ':' :: text).takeWhile Text.isWord = name := by
      rw [List.takeWhile_append_of_pos hword, List.takeWhile_cons_of_neg (by simp [hcolon]),
        List.append_nil]
    have hdrop : (name ++ ':' :: text).dropWhile Text.isWord = ':' :: text := by
      rw [List.dropWhile_append_of_pos hword, List.dropWhile_cons_of_neg (by simp [hcolon])]
    simp only [keyLine?, htake, hdrop]
    rw [if_neg (by simpa using hne)]

theorem IsKeyLine.exists_cons {line name text : List Char} (h : IsKeyLine line name text) :
    ∃ c cs, line = c :: cs ∧ Text.isWord c := by
  obtain ⟨c, cs, hname⟩ := List.exists_cons_of_ne_nil h.ne_nil
  exact ⟨c, cs ++ ':' :: text, by rw [h.eq, hname]; rfl, h.word c (hname ▸ List.mem_cons_self)⟩

/-! ## Item lines -/

theorem IsItemLine.trimStart {line text : List Char} (h : IsItemLine line text) :
    ∃ gap, Text.trimStart line = '-' :: (gap ++ text) ∧ gap ≠ [] ∧
      (∀ c ∈ gap, Text.isBlank c) ∧ text ≠ [] := by
  obtain ⟨indent, gap, rfl, hindent, hgap⟩ := h
  refine ⟨gap, ?_, hgap⟩
  rw [Text.trimStart_append_blanks hindent, Text.trimStart_cons_of_not_blank (by decide)]

theorem isItemLine_of_itemText? {line text : List Char} (h : itemText? line = some text) :
    IsItemLine line text := by
  obtain ⟨indent, hline, hindent⟩ := Text.exists_trimStart line
  unfold itemText? at h
  split at h
  · rename_i rest hstart
    rw [hstart] at hline
    have hrest : rest.takeWhile Text.isBlank ++ rest.dropWhile Text.isBlank = rest :=
      List.takeWhile_append_dropWhile
    have hblanks : ∀ c ∈ rest.takeWhile Text.isBlank, Text.isBlank c := fun c hc =>
      List.all_eq_true.mp List.all_takeWhile c hc
    split at h
    · rename_i hdrop
      dsimp only at h
      split at h
      · rename_i htwo
        obtain ⟨c, hlast, rfl⟩ := Option.map_eq_some_iff.mp h
        rw [hdrop, List.append_nil] at hrest
        rw [hrest] at htwo hblanks hlast
        -- the last of the blanks is the text, the others are the gap
        obtain ⟨gap, rfl⟩ := List.getLast?_eq_some_iff.mp hlast
        refine ⟨indent, gap, hline, hindent, ?_, fun d hd => ?_, by simp⟩
        · rintro rfl
          simp at htwo
        · exact hblanks d (List.mem_append_left _ hd)
      · cases h
    · rename_i c cs hdrop
      dsimp only at h
      split at h
      · cases h
      · rename_i hne
        cases h
        rw [hdrop] at hrest
        exact ⟨indent, _, by rw [hrest]; exact hline, hindent, by simpa using hne, hblanks,
          by simp⟩
  · cases h

/-- An item line has an item, whose text is that of the pattern but for blanks at its ends. -/
theorem IsItemLine.exists_itemText? {line text : List Char} (h : IsItemLine line text) :
    ∃ t, itemText? line = some t ∧ Text.trim t = Text.trim text := by
  obtain ⟨gap, hstart, hne, hgap, htext⟩ := h.trimStart
  have hdrop : (gap ++ text).dropWhile Text.isBlank = Text.trimStart text :=
    Text.trimStart_append_blanks hgap text
  simp only [itemText?, hstart, hdrop]
  cases ht : Text.trimStart text with
  | nil =>
    have htrim : Text.trim text = [] := by rw [Text.trim, ht, Text.trimEnd_nil]
    have hall : ∀ c ∈ gap ++ text, Text.isBlank c := by
      intro c hc
      rcases List.mem_append.mp hc with hc | hc
      · exact hgap c hc
      · exact Text.trim_eq_nil_iff.mp htrim c hc
    have htake : (gap ++ text).takeWhile Text.isBlank = gap ++ text := by
      have := List.takeWhile_append_dropWhile (p := Text.isBlank) (l := gap ++ text)
      rwa [hdrop, ht, List.append_nil] at this
    have hlen : 2 ≤ (gap ++ text).length := by
      have h1 := List.length_pos_iff.mpr hne
      have h2 := List.length_pos_iff.mpr htext
      rw [List.length_append]
      omega
    obtain ⟨c, hc⟩ := List.getLast?_isSome.mpr (show gap ++ text ≠ [] by simp [hne]) |>
      Option.isSome_iff_exists.mp
    refine ⟨[c], by simp only [htake, hlen, if_true, hc, Option.map_some], ?_⟩
    have hblank : Text.isBlank c := hall c (List.mem_of_getLast? hc)
    rw [htrim, Text.trim_eq_nil_iff]
    simpa using hblank
  | cons c cs =>
    have hne' : ((gap ++ text).takeWhile Text.isBlank).isEmpty = false := by
      obtain ⟨b, bs, rfl⟩ := List.exists_cons_of_ne_nil hne
      rw [List.cons_append, List.takeWhile_cons_of_pos (hgap b List.mem_cons_self)]
      rfl
    refine ⟨c :: cs, by simp only [hne', Bool.false_eq_true, if_false], ?_⟩
    rw [← ht, Text.trim_trimStart]

/-! ## Reading a line -/

theorem IsItemLine.isIdle {line text : List Char} (h : IsItemLine line text) :
    isIdle line = false := by
  obtain ⟨gap, hstart, -⟩ := h.trimStart
  have hhead := Text.head?_trim line
  rw [hstart] at hhead
  unfold Body.isIdle
  split
  · simp_all
  · rename_i c cs htrim
    rw [htrim] at hhead
    simp only [List.head?_cons, Option.some.injEq] at hhead
    subst hhead
    decide

theorem IsKeyLine.trimStart {line name text : List Char} (h : IsKeyLine line name text) :
    Text.trimStart line = line := by
  obtain ⟨c, cs, rfl, hc⟩ := h.exists_cons
  exact Text.trimStart_cons_of_not_blank (Text.isBlank_of_isWord hc) cs

theorem IsKeyLine.isIdle {line name text : List Char} (h : IsKeyLine line name text) :
    isIdle line = false := by
  have hhead := Text.head?_trim line
  rw [h.trimStart] at hhead
  obtain ⟨c, cs, rfl, hc⟩ := h.exists_cons
  unfold Body.isIdle
  split
  · simp_all
  · rename_i d ds htrim
    rw [htrim] at hhead
    simp only [List.head?_cons, Option.some.injEq] at hhead
    subst hhead
    simp only [beq_eq_false_iff_ne]
    rintro rfl
    simp [Text.isWord] at hc

theorem IsKeyLine.itemText? {line name text : List Char} (h : IsKeyLine line name text) :
    itemText? line = none := by
  unfold Body.itemText?
  rw [h.trimStart]
  obtain ⟨c, cs, rfl, hc⟩ := h.exists_cons
  split
  · rename_i rest heq
    cases heq
    simp [Text.isWord] at hc
  · rfl

theorem ofText_eq_key_iff {line name t : List Char} :
    Line.ofText line = .key name t ↔
      ∃ text, IsKeyLine line name text ∧ t = Text.trimStart text := by
  rw [← keyLine?_eq_some_iff]
  constructor
  · intro h
    unfold Line.ofText at h
    split at h
    · cases h
    · split at h
      · cases h
      · split at h
        · rename_i n u hkey
          cases h
          exact hkey
        · cases h
  · intro h
    obtain ⟨text, hkey, -⟩ := keyLine?_eq_some_iff.mp h
    simp [Line.ofText, hkey.isIdle, hkey.itemText?, h]

theorem isItemLine_of_ofText {line : List Char} {i : Item} (h : Line.ofText line = .item i) :
    IsItemLine line i.text := by
  unfold Line.ofText at h
  split at h
  · cases h
  · split at h
    · rename_i text ht
      cases h
      exact isItemLine_of_itemText? ht
    · split at h
      · cases h
      · cases h

theorem IsItemLine.exists_ofText {line text : List Char} (h : IsItemLine line text) :
    ∃ i, Line.ofText line = .item i ∧ Text.trim i.text = Text.trim text := by
  obtain ⟨t, ht, htrim⟩ := h.exists_itemText?
  exact ⟨⟨line, t⟩, by simp [Line.ofText, h.isIdle, ht], htrim⟩

end NoteQuery.Body
