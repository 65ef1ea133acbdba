import NoteQuery.Proofs.Text.Lines
import NoteQuery.Report.Emoji

/-!
# Replacing emoji codes

No code reaches over a blank, so that a text with blanks in it is replaced piece by piece. Emoji hold
no colons. Where a code is replaced, an emoji therefore takes the place of a colon, and a text that
has changed differs from what it was in a way that nothing behind it makes up for.

* `isWord_of_ofCode?_eq_some`: what an emoji looks like.
* `replace_append_cons`: texts with a blank between them.
* `forall_mem_replace`: the characters of a text with its codes replaced.
* `replace_eq_self_of_append_eq`: texts that stay as they are.
-/

namespace NoteQuery.Emoji

variable {cs code emoji : List Char}

/-! ## Emoji -/

/-- A word of the table, or one with a selector behind it. -/
structure IsWord (w : List Char) : Prop where
  ne_nil : w ≠ []
  not_parts : ∀ c ∈ w, partsWords c = false

theorem IsWord.append {w look : List Char} (h : IsWord w)
    (hlook : ∀ c ∈ look, partsWords c = false) : IsWord (w ++ look) := by
  refine ⟨List.append_ne_nil_of_left_ne_nil h.ne_nil look, ?_⟩
  rw [List.forall_mem_append]
  exact ⟨h.not_parts, hlook⟩

theorem isWord_of_mem_words {line : String} {w : List Char} (h : w ∈ words line) : IsWord w := by
  obtain ⟨hmem, hne⟩ := List.mem_filter.mp h
  exact ⟨of_decide_eq_true hne, Text.eq_false_of_mem_splitOnP hmem⟩

theorem snd_mem_of_mem_pairUp {ws : List (List Char)} {e : List Char × List Char}
    (h : e ∈ pairUp ws) : e.2 ∈ ws := by
  induction ws using pairUp.induct with
  | case1 name emoji rest ih =>
    rcases List.mem_cons.mp h with rfl | h
    · exact List.mem_cons_of_mem _ List.mem_cons_self
    · exact List.mem_cons_of_mem _ (List.mem_cons_of_mem _ (ih h))
  | case2 ws hws =>
    rw [pairUp] at h
    · cases h
    · exact hws

theorem isWord_of_mem_entries {e : List Char × List Char} (h : e ∈ entries) : IsWord e.2 := by
  obtain ⟨line, -, hline⟩ := List.mem_flatMap.mp h
  exact isWord_of_mem_words (snd_mem_of_mem_pairUp hline)

theorem isWord_of_ofCode?_eq_some (h : ofCode? code = some emoji) : IsWord emoji := by
  have hlooks : ∀ l ∈ looks, ∀ c ∈ l.2, partsWords c = false := by
    rw [looks, List.forall_mem_cons, List.forall_mem_singleton, List.forall_mem_singleton,
      List.forall_mem_singleton]
    exact ⟨rfl, rfl⟩
  obtain ⟨name, look, hlook, hcode⟩ : ∃ name look, (∀ c ∈ look, partsWords c = false) ∧
      ofCode? code = (entries.lookup (Text.lower name)).map (· ++ look) := by
    unfold ofCode?
    split
    rename_i name look hsplit
    refine ⟨name, look, ?_, rfl⟩
    split at hsplit
    · rename_i l hfind
      obtain ⟨-, rfl⟩ := Prod.mk.inj hsplit
      exact hlooks l (List.mem_of_find?_eq_some hfind)
    · obtain ⟨-, rfl⟩ := Prod.mk.inj hsplit
      intro c hc
      cases hc
  rw [hcode, Option.map_eq_some_iff] at h
  obtain ⟨word, hlookup, rfl⟩ := h
  obtain ⟨front, back, hentries, -⟩ := List.lookup_eq_some_iff.mp hlookup
  have hmem : (Text.lower name, word) ∈ entries :=
    hentries ▸ List.mem_append_right _ List.mem_cons_self
  exact (isWord_of_mem_entries hmem).append hlook

/-! ## One character -/

section Steps

variable {c : Char}

theorem ne_colon_of_isBlank (h : Text.isBlank c) : c ≠ ':' := by
  rintro rfl
  cases h

theorem replaceAfter_none_cons (h : c ≠ ':') (cs : List Char) :
    replaceAfter none (c :: cs) = c :: replaceAfter none cs := if_neg h

theorem replaceAfter_some_colon (code cs : List Char) :
    replaceAfter (some code) (':' :: cs) = replaced code.reverse ++ replaceAfter none cs := rfl

theorem replaceAfter_some_blank (h : Text.isBlank c) (code cs : List Char) :
    replaceAfter (some code) (c :: cs) = ':' :: code.reverse ++ c :: replaceAfter none cs :=
  (if_neg (ne_colon_of_isBlank h)).trans (if_pos h)

theorem replaceAfter_some_cons (h : c ≠ ':') (hblank : ¬ Text.isBlank c) (code cs : List Char) :
    replaceAfter (some code) (c :: cs) = replaceAfter (some (c :: code)) cs :=
  (if_neg h).trans (if_neg hblank)

end Steps

/-! ## Cutting at blanks -/

theorem replaceAfter_append_cons {b : Char} (hblank : Text.isBlank b)
    (pending : Option (List Char)) (cs ds : List Char) :
    replaceAfter pending (cs ++ b :: ds) = replaceAfter pending cs ++ b :: replace ds := by
  fun_induction replaceAfter pending cs with
  | case1 => exact replaceAfter_none_cons (ne_colon_of_isBlank hblank) ds
  | case2 code => exact replaceAfter_some_blank hblank code ds
  | case3 cs ih => exact ih
  | case4 c cs hc ih =>
    rw [List.cons_append, replaceAfter_none_cons hc, ih, List.cons_append]
  | case5 cs code ih =>
    rw [List.cons_append, replaceAfter_some_colon, ih, List.append_assoc]
  | case6 c cs code hc hblank' ih =>
    rw [List.cons_append, replaceAfter_some_blank hblank', ih]
    simp only [List.append_assoc, List.cons_append]
  | case7 c cs code hc hblank' ih =>
    rw [List.cons_append, replaceAfter_some_cons hc hblank', ih]

/-- A text is replaced piece by piece at its blanks. -/
theorem replace_append_cons {b : Char} (hblank : Text.isBlank b) (cs ds : List Char) :
    replace (cs ++ b :: ds) = replace cs ++ b :: replace ds :=
  replaceAfter_append_cons hblank none cs ds

theorem replace_of_colon_notMem (h : ':' ∉ cs) : replace cs = cs := by
  induction cs with
  | nil => rfl
  | cons c cs ih =>
    obtain ⟨hc, hcs⟩ := List.ne_and_not_mem_of_not_mem_cons h
    have ih : replaceAfter none cs = cs := ih hcs
    rw [replace, replaceAfter_none_cons hc.symm, ih]

/-! ## Texts that change -/

/-- What has been read and not been written. -/
def unread : Option (List Char) → List Char
  | none => []
  | some code => ':' :: code.reverse

theorem unread_some_append_cons (code cs : List Char) (c : Char) :
    unread (some code) ++ c :: cs = unread (some (c :: code)) ++ cs := by
  simp only [unread, List.reverse_cons, List.cons_append, List.append_assoc, List.nil_append]

section Characters

variable {P : Char → Prop}

theorem forall_mem_replaced (hemoji : ∀ c, partsWords c = false → P c) (hcolon : P ':')
    (h : ∀ c ∈ code, P c) : ∀ c ∈ replaced code, P c := by
  unfold replaced
  cases hcode : ofCode? code with
  | none =>
    show ∀ c ∈ ':' :: code ++ [':'], P c
    rw [List.forall_mem_append, List.forall_mem_cons, List.forall_mem_singleton]
    exact ⟨⟨hcolon, h⟩, hcolon⟩
  | some emoji =>
    intro c hc
    exact hemoji c ((isWord_of_ofCode?_eq_some hcode).not_parts c hc)

theorem forall_mem_replaceAfter (hemoji : ∀ c, partsWords c = false → P c)
    {pending : Option (List Char)} (h : ∀ c ∈ unread pending ++ cs, P c) :
    ∀ c ∈ replaceAfter pending cs, P c := by
  fun_induction replaceAfter pending cs with
  | case1 => exact h
  | case2 code =>
    rw [List.append_nil] at h
    exact h
  | case3 cs ih => exact ih h
  | case4 c cs hc ih =>
    obtain ⟨hfirst, hrest⟩ := List.forall_mem_cons.mp h
    exact List.forall_mem_cons.mpr ⟨hfirst, ih hrest⟩
  | case5 cs code ih =>
    obtain ⟨hcode, hrest⟩ := List.forall_mem_append.mp h
    obtain ⟨hcolon, hcs⟩ := List.forall_mem_cons.mp hrest
    obtain ⟨-, hcode⟩ := List.forall_mem_cons.mp hcode
    rw [List.forall_mem_append]
    exact ⟨forall_mem_replaced hemoji hcolon hcode, ih hcs⟩
  | case6 c cs code hc hblank ih =>
    obtain ⟨hcode, hrest⟩ := List.forall_mem_append.mp h
    obtain ⟨hfirst, hcs⟩ := List.forall_mem_cons.mp hrest
    exact List.forall_mem_append.mpr ⟨hcode, List.forall_mem_cons.mpr ⟨hfirst, ih hcs⟩⟩
  | case7 c cs code hc hblank ih =>
    apply ih
    rw [← unread_some_append_cons]
    exact h

/-- What holds of the characters of a text and of those of emoji still holds after replacing. -/
theorem forall_mem_replace (hemoji : ∀ c, partsWords c = false → P c) (h : ∀ c ∈ cs, P c) :
    ∀ c ∈ replace cs, P c :=
  forall_mem_replaceAfter hemoji h

end Characters

/-- The texts are the same or differ first where the old one has a colon. -/
def SameUpToColon (old new : List Char) : Prop :=
  new = old ∨
    ∃ front c back rest, old = front ++ ':' :: back ∧ new = front ++ c :: rest ∧ c ≠ ':'

namespace SameUpToColon

variable {old new : List Char}

theorem append_left (h : SameUpToColon old new) (cs : List Char) :
    SameUpToColon (cs ++ old) (cs ++ new) := by
  rcases h with rfl | ⟨front, c, back, rest, rfl, rfl, hc⟩
  · exact Or.inl rfl
  · refine Or.inr ⟨cs ++ front, c, back, rest, ?_, ?_, hc⟩
    · rw [List.append_assoc]
    · rw [List.append_assoc]

theorem eq_of_append_eq (h : SameUpToColon old new) {xs ys : List Char}
    (heq : new ++ xs = old ++ ys) : new = old := by
  rcases h with h | ⟨front, c, back, rest, rfl, rfl, hc⟩
  · exact h
  · rw [List.append_assoc, List.append_assoc, List.append_right_inj] at heq
    exact absurd (List.cons.inj heq).1 hc

theorem ne_nil (h : SameUpToColon old new) (hold : old ≠ []) : new ≠ [] := by
  rcases h with rfl | ⟨front, c, back, rest, -, rfl, -⟩
  · exact hold
  · exact List.append_ne_nil_of_right_ne_nil front (List.cons_ne_nil _ _)

end SameUpToColon

theorem sameUpToColon_replaceAfter (pending : Option (List Char)) (cs : List Char) :
    SameUpToColon (unread pending ++ cs) (replaceAfter pending cs) := by
  fun_induction replaceAfter pending cs with
  | case1 => exact Or.inl rfl
  | case2 code => exact Or.inl (List.append_nil _).symm
  | case3 cs ih => exact ih
  | case4 c cs hc ih => exact ih.append_left [c]
  | case5 cs code ih =>
    unfold replaced
    cases hcode : ofCode? code.reverse with
    | none =>
      rw [List.append_cons]
      exact ih.append_left _
    | some emoji =>
      -- The first character of the emoji stands where the first colon was.
      have hword := isWord_of_ofCode?_eq_some hcode
      obtain ⟨c, rest, rfl⟩ := List.exists_cons_of_ne_nil hword.ne_nil
      refine Or.inr ⟨[], c, code.reverse ++ ':' :: cs, rest ++ replaceAfter none cs, rfl, rfl, ?_⟩
      rintro rfl
      have := hword.not_parts ':' List.mem_cons_self
      contradiction
  | case6 c cs code hc hblank ih =>
    rw [List.append_cons, List.append_cons (':' :: code.reverse)]
    exact ih.append_left _
  | case7 c cs code hc hblank ih =>
    rw [unread_some_append_cons]
    exact ih

/-- If the text has changed, nothing behind it makes up for that. -/
theorem replace_eq_self_of_append_eq {xs ys : List Char} (h : replace cs ++ xs = cs ++ ys) :
    replace cs = cs :=
  (sameUpToColon_replaceAfter none cs).eq_of_append_eq h

theorem replace_ne_nil (h : cs ≠ []) : replace cs ≠ [] :=
  (sameUpToColon_replaceAfter none cs).ne_nil h

end NoteQuery.Emoji
