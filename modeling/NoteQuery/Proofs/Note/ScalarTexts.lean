import NoteQuery.Proofs.Text.Lines
import NoteQuery.Proofs.Value.DateLiterals
import NoteQuery.Value.Text

/-!
# Scalars and lists in brackets

Texts that are read as a scalar of a known kind, and lists in brackets.

* `read_quoted`, `read_intChars`, `read_raw`: a text between quotes, the digits of an integer and the
  literal of a date are read as what they stand for.
* `read_eq_of_trim`, `readList?_eq_of_trim`: blanks around a text do not count.
* `readList?_eq_some_iff`: which lines are lists in brackets, and what the lists hold.
-/

namespace NoteQuery.Scalar

theorem read_eq_of_trim {s t : List Char} (h : Text.trim s = Text.trim t) : read s = read t := by
  simp only [read, h]

theorem readList?_eq_of_trim {s t : List Char} (h : Text.trim s = Text.trim t) :
    readList? s = readList? t := by
  rw [readList?, h, readList?]

theorem read_of_blank {text : List Char} (h : Text.trim text = []) : read text = .null := by
  rw [read, h]
  rfl

/-! ## The kinds that a first character rules out -/

theorem word?_eq_none {c : Char} (h : c ≠ 'n' ∧ c ≠ '~' ∧ c ≠ 't' ∧ c ≠ 'f') (cs : List Char) :
    word? (c :: cs) = none := by
  obtain ⟨hn, htilde, ht, hf⟩ := h
  simp [word?, hn, htilde, ht, hf]

theorem takeSign_eq_self {c : Char} (h : c ≠ '-' ∧ c ≠ '+') (cs : List Char) :
    Text.takeSign (c :: cs) = (false, c :: cs) := by
  unfold Text.takeSign
  split
  · simp_all
  · simp_all
  · rfl

theorem ne_of_isDigit {c d : Char} (hc : c.isDigit) (hd : d.isDigit = false) : c ≠ d := by
  rintro rfl
  simp [hc] at hd

theorem word?_eq_none_of_isDigit {c : Char} (h : c.isDigit) (cs : List Char) :
    word? (c :: cs) = none :=
  word?_eq_none ⟨ne_of_isDigit h (by decide), ne_of_isDigit h (by decide),
    ne_of_isDigit h (by decide), ne_of_isDigit h (by decide)⟩ cs

theorem takeSign_of_isDigit {c : Char} (h : c.isDigit) (cs : List Char) :
    Text.takeSign (c :: cs) = (false, c :: cs) :=
  takeSign_eq_self ⟨ne_of_isDigit h (by decide), ne_of_isDigit h (by decide)⟩ cs

/-! ## Texts between quotes -/

/-- The characters that texts are quoted with. -/
def IsQuote (q : Char) : Prop := q = '"' ∨ q = Char.ofNat 0x27

theorem IsQuote.not_blank {q : Char} (h : IsQuote q) : Text.isBlank q = false := by
  rcases h with rfl | rfl <;> decide

theorem number?_of_quote {q : Char} (h : IsQuote q) (cs : List Char) :
    number? (q :: cs) = none := by
  have hsign : q ≠ '-' ∧ q ≠ '+' := by rcases h with rfl | rfl <;> decide
  have hdigit : q.isDigit = false := by rcases h with rfl | rfl <;> decide
  have hpoint : q ≠ '.' := by rcases h with rfl | rfl <;> decide
  simp [number?, takeSign_eq_self hsign, hdigit, hpoint]

theorem date?_of_quote {q : Char} (h : IsQuote q) (cs : List Char) : date? (q :: cs) = none := by
  have hdigit : q.isDigit = false := by rcases h with rfl | rfl <;> decide
  unfold date?
  split
  · rename_i heq
    cases heq
    simp [hdigit]
  · rfl

theorem unquote?_quoted {q : Char} (h : IsQuote q) (cs : List Char) :
    unquote? (q :: (cs ++ [q])) = some cs := by
  have hq : (decide (q = '"') || decide (q = Char.ofNat 0x27)) = true := by
    rcases h with rfl | rfl <;> rfl
  simp [unquote?, hq]

/-- What stands between two equal quotes is read as a text, whatever it is. -/
theorem read_quoted {q : Char} (h : IsQuote q) (cs : List Char) :
    read (q :: (cs ++ [q])) = .text (String.ofList cs) := by
  have htrim := Text.trim_enclosed h.not_blank h.not_blank cs
  have hword : word? (q :: (cs ++ [q])) = none := by
    apply word?_eq_none
    rcases h with rfl | rfl <;> decide
  simp only [read, htrim, hword, number?_of_quote h, date?_of_quote h, unquote?_quoted h,
    Option.getD_some]

/-! ## Integers -/

theorem isDigit_of_mem_toDigits {n : Nat} {c : Char} (h : c ∈ Nat.toDigits 10 n) : c.isDigit :=
  Nat.isDigit_of_mem_toDigits (by decide) (by decide) h

/-- The digits of a number, with or without a minus sign, are read as an integer, if they are not
too many. -/
theorem number?_digits {cs ds : List Char} {negative : Bool} (hne : ds ≠ [])
    (hdigit : ∀ c ∈ ds, c.isDigit) (hcs : Text.takeSign cs = (negative, ds)) :
    number? cs = some (integer negative ds) := by
  have htake : (ds ++ []).takeWhile Char.isDigit = ds ++ [].takeWhile Char.isDigit :=
    List.takeWhile_append_of_pos hdigit
  have hdrop : (ds ++ []).dropWhile Char.isDigit = [].dropWhile Char.isDigit :=
    List.dropWhile_append_of_pos hdigit
  rw [List.append_nil] at htake hdrop
  simp [number?, hcs, htake, hdrop, hne]

theorem eq_minus_or_isDigit_of_mem_intChars {i : Int} {c : Char} (h : c ∈ Value.intChars i) :
    c = '-' ∨ c.isDigit := by
  unfold Value.intChars at h
  split at h
  · rcases List.mem_cons.mp h with rfl | h
    · exact Or.inl rfl
    · exact Or.inr (isDigit_of_mem_toDigits h)
  · exact Or.inr (isDigit_of_mem_toDigits h)

theorem word?_intChars (i : Int) : word? (Value.intChars i) = none := by
  cases h : Value.intChars i with
  | nil =>
    unfold Value.intChars at h
    split at h
    · cases h
    · exact absurd h Nat.toDigits_ne_nil
  | cons c cs =>
    have hc : c ∈ Value.intChars i := h ▸ List.mem_cons_self
    rcases eq_minus_or_isDigit_of_mem_intChars hc with rfl | hc
    · exact word?_eq_none (by decide) cs
    · exact word?_eq_none_of_isDigit hc cs

theorem trim_of_digits {cs : List Char} (h : ∀ c ∈ cs, c = '-' ∨ c.isDigit) :
    Text.trim cs = cs := by
  apply Text.trim_eq_self_of_forall
  intro c hc
  rcases h c hc with rfl | hc
  · decide
  · exact Text.isBlank_of_isDigit hc

theorem trim_intChars (i : Int) : Text.trim (Value.intChars i) = Value.intChars i :=
  trim_of_digits fun _ => eq_minus_or_isDigit_of_mem_intChars

theorem number?_intChars {i : Int}
    (h : (Nat.toDigits 10 i.natAbs).length ≤ Text.digitLimit) :
    number? (Value.intChars i) = some (.int i) := by
  have hdigit : ∀ c ∈ Nat.toDigits 10 i.natAbs, c.isDigit := fun c => isDigit_of_mem_toDigits
  have hvalue : Text.natOfDigits (Nat.toDigits 10 i.natAbs) = i.natAbs :=
    Nat.ofDigitChars_ten_toDigits
  unfold Value.intChars
  split
  · rename_i hneg
    rw [number?_digits Nat.toDigits_ne_nil hdigit rfl, integer, if_pos h, hvalue]
    simp only [if_true]
    congr 2
    omega
  · rename_i hpos
    obtain ⟨c, cs, hcs⟩ := List.exists_cons_of_ne_nil (Nat.toDigits_ne_nil (b := 10) (n := i.natAbs))
    have hsign : Text.takeSign (Nat.toDigits 10 i.natAbs) = (false, Nat.toDigits 10 i.natAbs) := by
      rw [hcs]
      exact takeSign_of_isDigit (hdigit c (hcs ▸ List.mem_cons_self)) cs
    rw [number?_digits Nat.toDigits_ne_nil hdigit hsign, integer, if_pos h, hvalue]
    simp only [Bool.false_eq_true, if_false]
    congr 2
    omega

/-- The digits of an integer are read as the integer, if they are not too many. -/
theorem read_intChars {i : Int} (h : (Nat.toDigits 10 i.natAbs).length ≤ Text.digitLimit) :
    read (Value.intChars i) = .int i := by
  simp only [read, trim_intChars, word?_intChars, number?_intChars h]

/-! ## Dates -/

theorem number?_raw {d : DateLiteral} (h : d.IsWellFormed) : number? d.raw.toList = none := by
  obtain ⟨ys, ms, ds, hys, -, -, hdigit, hraw, -⟩ := h
  have hyears : ∀ c ∈ ys, c.isDigit := fun c hc => hdigit c (by simp [hc])
  obtain ⟨c, cs, rfl⟩ := List.exists_cons_of_length_pos (show 0 < ys.length by omega)
  have hsign : Text.takeSign (c :: cs ++ '-' :: (ms ++ '-' :: ds)) =
      (false, c :: cs ++ '-' :: (ms ++ '-' :: ds)) :=
    takeSign_of_isDigit (hyears c List.mem_cons_self) _
  have hdrop : (c :: cs ++ '-' :: (ms ++ '-' :: ds)).dropWhile Char.isDigit =
      '-' :: (ms ++ '-' :: ds) := by
    rw [List.dropWhile_append_of_pos hyears, List.dropWhile_cons_of_neg (by decide)]
  rw [hraw]
  simp only [number?, hsign, hdrop]
  rfl

theorem eq_hyphen_or_isDigit_of_mem_raw {d : DateLiteral} (h : d.IsWellFormed) {c : Char}
    (hc : c ∈ d.raw.toList) : c = '-' ∨ c.isDigit := by
  obtain ⟨ys, ms, ds, -, -, -, hdigit, hraw, -⟩ := h
  simp only [hraw, List.mem_append, List.mem_cons] at hc hdigit
  rcases hc with hc | rfl | hc | rfl | hc
  · exact Or.inr (hdigit c (Or.inl (Or.inl hc)))
  · exact Or.inl rfl
  · exact Or.inr (hdigit c (Or.inl (Or.inr hc)))
  · exact Or.inl rfl
  · exact Or.inr (hdigit c (Or.inr hc))

theorem exists_cons_raw {d : DateLiteral} (h : d.IsWellFormed) :
    ∃ c cs, d.raw.toList = c :: cs ∧ c.isDigit := by
  obtain ⟨ys, ms, ds, hys, -, -, hdigit, hraw, -⟩ := h
  obtain ⟨c, cs, rfl⟩ := List.exists_cons_of_length_pos (show 0 < ys.length by omega)
  exact ⟨c, cs ++ '-' :: (ms ++ '-' :: ds), hraw, hdigit c (by simp)⟩

theorem trim_raw {d : DateLiteral} (h : d.IsWellFormed) :
    Text.trim d.raw.toList = d.raw.toList :=
  trim_of_digits fun _ => eq_hyphen_or_isDigit_of_mem_raw h

/-- The literal of a well-formed date is read as the date. -/
theorem read_raw {d : DateLiteral} (h : d.IsWellFormed) : read d.raw.toList = .date d := by
  have hword : word? d.raw.toList = none := by
    obtain ⟨c, cs, hraw, hc⟩ := exists_cons_raw h
    rw [hraw]
    exact word?_eq_none_of_isDigit hc cs
  simp only [read, trim_raw h, hword, number?_raw h, h.date?_raw]

/-! ## Lists in brackets -/

theorem readList?_eq_some_iff {text : List Char} (hline : '\n' ∉ text) {vs : List Value} :
    readList? text = some vs ↔
      ∃ inner, Text.trim text = '[' :: (inner ++ [']']) ∧
        (Text.commaItems inner).map read = vs := by
  unfold readList?
  constructor
  · intro h
    split at h
    · rename_i c cs htrim
      split at h
      · rename_i hc
        simp only [Bool.and_eq_true, decide_eq_true_eq] at hc
        obtain ⟨⟨rfl, hlast⟩, -⟩ := hc
        obtain ⟨inner, rfl⟩ := List.getLast?_eq_some_iff.mp hlast
        refine ⟨inner, htrim, ?_⟩
        simpa using h
      · cases h
    · cases h
  · rintro ⟨inner, htrim, rfl⟩
    have hnewline : '\n' ∉ inner := by
      intro hmem
      apply hline
      apply Text.mem_of_mem_trim
      rw [htrim]
      exact List.mem_cons_of_mem _ (List.mem_append_left _ hmem)
    simp [htrim, hnewline]

end NoteQuery.Scalar
