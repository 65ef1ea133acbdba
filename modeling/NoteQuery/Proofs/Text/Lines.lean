import NoteQuery.Proofs.Text.Trim

/-!
# Lines and pieces

How a text falls into lines at its newlines, and into trimmed pieces at its commas.

* `lines_append_newline`, `lines_cons`: the lines of a text from those of the text behind its first
  line, or its first character.
* `lines_intercalate`, `lines_flatMap`: lines put together with newlines fall into the same lines.
* `EndsLine`, `exists_cut_of_lines`: cutting a text at the end of a line cuts its lines.
* `commaItems_intercalate`: likewise for pieces put together with a comma and a space.
-/

namespace NoteQuery.Text

theorem eq_false_of_mem_splitOnP {p : Char → Bool} {cs piece : List Char}
    (h : piece ∈ cs.splitOnP p) : ∀ c ∈ piece, p c = false := by
  induction cs generalizing piece with
  | nil =>
    obtain rfl := List.mem_singleton.mp h
    intro c hc
    cases hc
  | cons c cs ih =>
    rw [List.splitOnP_cons_eq_if_modifyHead] at h
    split at h
    · rcases List.mem_cons.mp h with rfl | h
      · intro c hc
        cases hc
      · exact ih h
    · rename_i hc
      cases hs : cs.splitOnP p with
      | nil => simp at hs
      | cons q qs =>
        rw [hs] at h ih
        rcases List.mem_cons.mp h with rfl | h
        · exact List.forall_mem_cons.mpr ⟨Bool.eq_false_iff.mpr hc, ih List.mem_cons_self⟩
        · exact ih (List.mem_cons_of_mem _ h)

theorem notMem_of_mem_splitOn {a : Char} {cs p : List Char} (h : p ∈ cs.splitOn a) : a ∉ p := by
  intro ha
  have := eq_false_of_mem_splitOnP h a ha
  simp at this

/-! ## Lines -/

theorem withoutReturn_concat (cs : List Char) (c : Char) :
    withoutReturn (cs ++ [c]) = if c = '\r' then cs else cs ++ [c] := by
  induction cs with
  | nil => simp [withoutReturn]
  | cons d ds ih =>
    cases ds with
    | nil => simp only [List.nil_append, List.cons_append, withoutReturn]; split <;> rfl
    | cons e es =>
      simp only [List.cons_append, withoutReturn] at ih ⊢
      rw [ih]
      split <;> rfl

theorem withoutReturn_cons {c : Char} (h : c ≠ '\r') (cs : List Char) :
    withoutReturn (c :: cs) = c :: withoutReturn cs := by
  cases cs with
  | nil => exact if_neg h
  | cons d ds => rfl

theorem withoutReturn_eq_self {cs : List Char} (h : cs.getLast? ≠ some '\r') :
    withoutReturn cs = cs := by
  rcases List.eq_nil_or_concat cs with rfl | ⟨ds, d, rfl⟩
  · rfl
  · rw [List.concat_eq_append] at h ⊢
    rw [withoutReturn_concat, if_neg]
    simpa using h

theorem mem_of_mem_withoutReturn {c : Char} {cs : List Char} (h : c ∈ withoutReturn cs) :
    c ∈ cs := by
  rcases List.eq_nil_or_concat cs with rfl | ⟨ds, d, rfl⟩
  · exact h
  · rw [List.concat_eq_append] at h ⊢
    rw [withoutReturn_concat] at h
    split at h
    · exact List.mem_append_left _ h
    · exact h

/-- Taking off a carriage return takes off blanks. -/
theorem exists_withoutReturn (cs : List Char) :
    ∃ ret, cs = withoutReturn cs ++ ret ∧ ∀ c ∈ ret, isBlank c := by
  rcases List.eq_nil_or_concat cs with rfl | ⟨ds, d, rfl⟩
  · exact ⟨[], rfl, fun _ hc => by cases hc⟩
  · rw [List.concat_eq_append, withoutReturn_concat]
    split
    · rename_i hd
      subst hd
      exact ⟨['\r'], rfl, List.forall_mem_singleton.mpr rfl⟩
    · exact ⟨[], (List.append_nil _).symm, fun _ hc => by cases hc⟩

theorem trimEnd_withoutReturn (cs : List Char) : trimEnd (withoutReturn cs) = trimEnd cs := by
  obtain ⟨ret, hcs, hret⟩ := exists_withoutReturn cs
  calc trimEnd (withoutReturn cs) = trimEnd (withoutReturn cs ++ ret) :=
        (trimEnd_append_blanks _ hret).symm
    _ = trimEnd cs := by rw [← hcs]

theorem newline_notMem_of_mem_lines {cs l : List Char} (h : l ∈ lines cs) : '\n' ∉ l := by
  obtain ⟨p, hp, rfl⟩ := List.mem_map.mp h
  exact fun hmem => notMem_of_mem_splitOn hp (mem_of_mem_withoutReturn hmem)

theorem lines_of_notMem {l : List Char} (h : '\n' ∉ l) : lines l = [withoutReturn l] := by
  rw [lines, List.splitOn_eq_singleton h]
  rfl

theorem lines_append_newline_cons (front cs : List Char) :
    lines (front ++ '\n' :: cs) = lines front ++ lines cs := by
  rw [lines, List.splitOn_append_cons_self, List.map_append]
  rfl

theorem lines_append_newline {l : List Char} (h : '\n' ∉ l) (cs : List Char) :
    lines (l ++ '\n' :: cs) = withoutReturn l :: lines cs := by
  rw [lines_append_newline_cons, lines_of_notMem h, List.singleton_append]

theorem lines_newline_cons (cs : List Char) : lines ('\n' :: cs) = [] :: lines cs :=
  lines_append_newline (l := []) List.not_mem_nil cs

theorem lines_return_newline_cons (cs : List Char) :
    lines ('\r' :: '\n' :: cs) = [] :: lines cs :=
  lines_append_newline (l := ['\r']) (by decide) cs

/-- A character that can end no line stands at the start of the first line. -/
theorem lines_cons {c : Char} (hnewline : c ≠ '\n') (hreturn : c ≠ '\r') (cs : List Char) :
    lines (c :: cs) = (lines cs).modifyHead (c :: ·) := by
  have hsplit := List.splitOn_cons_eq_if_modifyHead (a := '\n') c cs
  rw [if_neg (by simpa using hnewline)] at hsplit
  rw [lines, lines, hsplit]
  cases cs.splitOn '\n' with
  | nil => rfl
  | cons p ps => simp only [List.modifyHead_cons, List.map_cons, withoutReturn_cons hreturn]

/-- A text that splitting into lines gives back as it is: one line, without a carriage return at
its end. -/
def IsLine (l : List Char) : Prop := '\n' ∉ l ∧ l.getLast? ≠ some '\r'

theorem IsLine.lines_append {l : List Char} (h : IsLine l) (cs : List Char) :
    lines (l ++ '\n' :: cs) = l :: lines cs := by
  rw [lines_append_newline h.1, withoutReturn_eq_self h.2]

theorem IsLine.lines_eq {l : List Char} (h : IsLine l) : lines l = [l] := by
  rw [lines_of_notMem h.1, withoutReturn_eq_self h.2]

theorem lines_intercalate {ls : List (List Char)} (hne : ls ≠ []) (h : ∀ l ∈ ls, IsLine l) :
    lines (['\n'].intercalate ls) = ls := by
  rw [lines, List.splitOn_intercalate '\n' (fun l hl => (h l hl).1) hne]
  calc ls.map withoutReturn = ls.map id :=
        List.map_congr_left fun l hl => withoutReturn_eq_self (h l hl).2
    _ = ls := List.map_id ls

theorem IsLine.append {l : List Char} (h : IsLine l) (hne : l ≠ []) {front : List Char}
    (hfront : '\n' ∉ front) : IsLine (front ++ l) := by
  obtain ⟨c, hc⟩ := List.getLast?_isSome.mpr hne |> Option.isSome_iff_exists.mp
  refine ⟨by simp [hfront, h.1], ?_⟩
  rw [List.getLast?_append, hc, Option.some_or, ← hc]
  exact h.2

theorem lines_flatMap {ls : List (List Char)} (h : ∀ l ∈ ls, IsLine l) (cs : List Char) :
    lines (ls.flatMap (· ++ ['\n']) ++ cs) = ls ++ lines cs := by
  induction ls with
  | nil => rfl
  | cons l ls ih =>
    have ih := ih fun k hk => h k (List.mem_cons_of_mem _ hk)
    rw [List.flatMap_cons, List.append_assoc, List.append_assoc, List.singleton_append,
      (h l List.mem_cons_self).lines_append, ih, List.cons_append]

/-! ## The ends of lines -/

/-- What can stand behind the end of a line: nothing, or a newline and any text. -/
def EndsLine (tail : List Char) : Prop := tail = [] ∨ ∃ cs, tail = '\n' :: cs

theorem EndsLine.exists_lines_append {tail : List Char} (h : EndsLine tail) :
    ∃ ls, ∀ front, lines (front ++ tail) = lines front ++ ls := by
  rcases h with rfl | ⟨cs, rfl⟩
  · exact ⟨[], fun front => by rw [List.append_nil, List.append_nil]⟩
  · exact ⟨lines cs, fun front => lines_append_newline_cons front cs⟩

theorem exists_intercalate_append {ls : List (List Char)} (hne : ls ≠ [])
    (ls' : List (List Char)) :
    ∃ tail, EndsLine tail ∧
      ['\n'].intercalate (ls ++ ls') = ['\n'].intercalate ls ++ tail := by
  induction ls with
  | nil => exact absurd rfl hne
  | cons l ls ih =>
    cases ls with
    | nil =>
      cases ls' with
      | nil => exact ⟨[], Or.inl rfl, (List.append_nil _).symm⟩
      | cons k ks => exact ⟨'\n' :: ['\n'].intercalate (k :: ks), Or.inr ⟨_, rfl⟩, by simp⟩
    | cons k ks =>
      obtain ⟨tail, htail, heq⟩ := ih (List.cons_ne_nil k ks)
      refine ⟨tail, htail, ?_⟩
      rw [List.cons_append, List.cons_append, List.intercalate_cons_cons, ← List.cons_append, heq,
        List.intercalate_cons_cons, List.append_assoc _ _ tail]

/-- Cutting the lines of a text comes from cutting the text at the end of a line. -/
theorem exists_cut_of_lines {cs : List Char} {ls ls' : List (List Char)} (hne : ls ≠ [])
    (h : lines cs = ls ++ ls') :
    ∃ front tail, cs = front ++ tail ∧ EndsLine tail ∧ lines front = ls := by
  obtain ⟨ps, qs, hsplit, rfl, -⟩ := List.map_eq_append_iff.mp h
  have hps : ps ≠ [] := fun hnil => hne (by rw [hnil]; rfl)
  obtain ⟨tail, htail, heq⟩ := exists_intercalate_append hps qs
  refine ⟨['\n'].intercalate ps, tail, ?_, htail, ?_⟩
  · rw [← heq, ← hsplit, List.intercalate_splitOn]
  · have hline : ∀ p ∈ ps, '\n' ∉ p := fun p hp =>
      notMem_of_mem_splitOn (hsplit ▸ List.mem_append_left qs hp)
    rw [lines, List.splitOn_intercalate '\n' hline hps]

theorem notMem_intercalate {a : Char} {sep : List Char} {ls : List (List Char)} (hsep : a ∉ sep)
    (h : ∀ l ∈ ls, a ∉ l) : a ∉ sep.intercalate ls := by
  induction ls with
  | nil => simp
  | cons l ls ih =>
    have ih := ih fun k hk => h k (List.mem_cons_of_mem _ hk)
    cases ls with
    | nil => simpa using h l List.mem_cons_self
    | cons k ks =>
      rw [List.intercalate_cons_cons]
      simp [h l List.mem_cons_self, hsep, ih]

/-! ## Pieces between commas -/

theorem commaItems_of_notMem {cs : List Char} (h : ',' ∉ cs) :
    commaItems cs = [trim cs].filter (· ≠ []) := by
  rw [commaItems, List.splitOn_eq_singleton h]
  rfl

theorem commaItems_append_comma {cs : List Char} (h : ',' ∉ cs) (ds : List Char) :
    commaItems (cs ++ ',' :: ds) = [trim cs].filter (· ≠ []) ++ commaItems ds := by
  rw [commaItems, List.splitOn_append_cons_self_of_not_mem h, List.map_cons,
    ← List.singleton_append, List.filter_append]
  rfl

theorem commaItems_space_cons (cs : List Char) : commaItems (' ' :: cs) = commaItems cs := by
  have hs := List.splitOn_cons_eq_if_modifyHead (a := ',') ' ' cs
  rw [if_neg (by decide)] at hs
  rw [commaItems, commaItems, hs]
  cases cs.splitOn ',' with
  | nil => rfl
  | cons p ps =>
    simp [trim_cons_of_blank (show isBlank ' ' from rfl) p]

theorem commaItems_intercalate {ps : List (List Char)}
    (h : ∀ p ∈ ps, ',' ∉ p ∧ trim p = p ∧ p ≠ []) :
    commaItems ([',', ' '].intercalate ps) = ps := by
  induction ps with
  | nil => rfl
  | cons p ps ih =>
    obtain ⟨hcomma, htrim, hne⟩ := h p List.mem_cons_self
    have ih := ih fun q hq => h q (List.mem_cons_of_mem _ hq)
    cases ps with
    | nil => simp [commaItems_of_notMem hcomma, htrim, hne]
    | cons q qs =>
      rw [List.intercalate_cons_of_ne_nil (by simp), List.append_assoc, List.cons_append,
        List.cons_append, List.nil_append, commaItems_append_comma hcomma, commaItems_space_cons,
        ih]
      simp [htrim, hne]

end NoteQuery.Text
