import NoteQuery.Proofs.Note.ValueModel

/-!
# The texts of scalars as scalars

Every scalar has a text of its own: none for null, a word for a boolean, the digits of an integer, the
literal of a date, and a text itself. For a scalar that is no float and was not quoted, this text is read
as the scalar again. What was quoted can hold anything, since nothing between two equal quotes is looked
at, and so its text need not be read as it.

* `ReadAs`, `readAs_read`: the kinds of scalars that are read.
* `Bare`, `bare_or_float_or_quoted`: the texts of which the scalar can be read again.
* `read_plainChars_of_bare`: the text of the scalar is read as it.
* `read_enclosed`: quotes with blanks around them.
* `read_canonical`: all of it.
-/

namespace NoteQuery.Scalar

variable {text before inner after cs : List Char} {q : Char} {s : String}

/-- The text is one quote at its start, the same one at its end, and what stands between them. -/
def IsQuoted (cs : List Char) : Prop := ∃ q inner, IsQuote q ∧ cs = q :: (inner ++ [q])

/-- The kinds of scalars that a text can be read as. An integer has no more digits than the limit, and a
text shows whether it was quoted. -/
inductive ReadAs (text : List Char) : Value → Prop
  | null : ReadAs text .null
  | bool (b : Bool) : ReadAs text (.bool b)
  | int {i : Int} (short : (Nat.toDigits 10 i.natAbs).length ≤ Text.digitLimit) :
      ReadAs text (.int i)
  | float (x : Binary64) : ReadAs text (.float x)
  | date (d : DateLiteral) : ReadAs text (.date d)
  | text (unquoted : ¬ IsQuoted (Text.trim text)) :
      ReadAs text (.text (String.ofList (Text.trim text)))
  | quoted (s : String) (quoted : IsQuoted (Text.trim text)) : ReadAs text (.text s)

/-- What the text is read as is no float and no text that has lost its quotes. -/
inductive Bare (text : List Char) : Prop
  | null (h : read text = .null)
  | bool {b : Bool} (h : read text = .bool b)
  | int {i : Int} (h : read text = .int i)
  | date {d : DateLiteral} (h : read text = .date d)
  | text {s : String} (h : read text = .text s) (unquoted : ¬ IsQuoted (Text.trim text))

/-! ## Kinds -/

theorem isQuoted_of_unquote? (h : unquote? cs = some inner) : IsQuoted cs := by
  unfold unquote? at h
  split at h
  · cases h
  · rename_i q rest
    split at h
    · rename_i hquotes
      rw [Bool.and_eq_true, Bool.or_eq_true, decide_eq_true_eq, decide_eq_true_eq,
        decide_eq_true_eq] at hquotes
      obtain ⟨hquote, hlast⟩ := hquotes
      obtain ⟨front, rfl⟩ := List.getLast?_eq_some_iff.mp hlast
      exact ⟨q, front, hquote, rfl⟩
    · cases h

theorem readAs_number {v : Value} (h : number? cs = some v) : ReadAs text v := by
  rcases number?_cases h with ⟨negative, digits, hdigits, rfl⟩ | ⟨x, rfl, -⟩
  · have hwritable := isWritable_integer negative hdigits
    rcases integer_cases negative digits with ⟨-, i, hint, -⟩ | ⟨x, hfloat, -⟩
    · rw [hint] at hwritable ⊢
      exact .int (Value.isWritable_int_iff.mp hwritable)
    · rw [hfloat]
      exact .float x
  · exact .float x

theorem readAs_read (text : List Char) : ReadAs text (read text) := by
  rcases read_cases text with ⟨v, hword, hread⟩ | ⟨v, hnumber, hread⟩ | ⟨d, -, hread⟩ | hread
  · rw [hread]
    rcases word?_cases hword with rfl | ⟨b, rfl⟩
    · exact .null
    · exact .bool b
  · rw [hread]
    exact readAs_number hnumber
  · rw [hread]
    exact .date d
  · rw [hread]
    cases hunquote : unquote? (Text.trim text) with
    | none =>
      refine .text ?_
      rintro ⟨q, inner, hquote, htrim⟩
      rw [htrim, unquote?_quoted hquote] at hunquote
      cases hunquote
    | some inner => exact .quoted _ (isQuoted_of_unquote? hunquote)

/-- A text that is neither a float nor quoted is bare. -/
theorem bare_or_float_or_quoted (text : List Char) :
    Bare text ∨ (∃ x, read text = .float x) ∨ IsQuoted (Text.trim text) := by
  have hkind := readAs_read text
  generalize hread : read text = v at hkind
  cases hkind with
  | null => exact .inl (.null hread)
  | bool b => exact .inl (.bool hread)
  | int short => exact .inl (.int hread)
  | float x => exact .inr (.inl ⟨x, rfl⟩)
  | date d => exact .inl (.date hread)
  | text unquoted => exact .inl (.text hread unquoted)
  | quoted s quoted => exact .inr (.inr quoted)

/-! ## Reading again -/

/-- An integer that is read can be written: it has no more digits than the limit, however many zeros
stood in front of them. -/
theorem length_digits_of_read {i : Int} (h : read text = .int i) :
    (Nat.toDigits 10 i.natAbs).length ≤ Text.digitLimit := by
  have hkind := readAs_read text
  rw [h] at hkind
  cases hkind with
  | int short => exact short

/-- A text that was not quoted is all of what was read, but for the blanks at both ends. -/
theorem eq_ofList_trim_of_read (h : read text = .text s) (hunquoted : ¬ IsQuoted (Text.trim text)) :
    s = String.ofList (Text.trim text) := by
  have hkind := readAs_read text
  rw [h] at hkind
  cases hkind with
  | text unquoted => rfl
  | quoted _ quoted => exact absurd quoted hunquoted

/-- The text of a bare scalar is read as the scalar. -/
theorem read_plainChars_of_bare (h : Bare text) : read (read text).plainChars = read text := by
  cases h with
  | null hread =>
    rw [hread]
    rfl
  | @bool b hread =>
    rw [hread]
    cases b <;> rfl
  | int hread =>
    rw [hread]
    exact read_intChars (length_digits_of_read hread)
  | date hread =>
    rw [hread]
    exact read_raw (isWellFormed_of_read hread)
  | text hread hunquoted =>
    obtain rfl := eq_ofList_trim_of_read hread hunquoted
    have hchars : (read text).plainChars = Text.trim text := by
      rw [hread]
      exact String.toList_ofList
    rw [hchars]
    exact read_eq_of_trim (Text.trim_trim text)

/-! ## Quotes -/

/-- Blanks around the quotes do not count, those between them do. -/
theorem read_enclosed (hquote : IsQuote q) (hbefore : ∀ c ∈ before, Text.isBlank c)
    (hafter : ∀ c ∈ after, Text.isBlank c) (inner : List Char) :
    read (before ++ q :: (inner ++ q :: after)) = .text (String.ofList inner) := by
  have hsplit : before ++ q :: (inner ++ q :: after) =
      before ++ (q :: (inner ++ [q]) ++ after) := by simp
  have htrim : Text.trim (before ++ q :: (inner ++ q :: after)) =
      Text.trim (q :: (inner ++ [q])) := by
    rw [hsplit, Text.trim_append_blanks hbefore, Text.trim_append_blanks_end hafter]
  rw [read_eq_of_trim htrim, read_quoted hquote]

/-- Every text is bare, a float or quoted. A bare one stands for a scalar that can be written, and what is
read from the text of the scalar is the same scalar. What stands between two equal quotes, with any
blanks around them, is read as a text, just as it stands. -/
theorem read_canonical :
    (∀ text, Bare text ∨ (∃ x, read text = .float x) ∨ IsQuoted (Text.trim text)) ∧
    (∀ text, Bare text → read (read text).plainChars = read text ∧
      ∀ i, read text = .int i → (Nat.toDigits 10 i.natAbs).length ≤ Text.digitLimit) ∧
    ∀ q before inner after, IsQuote q → (∀ c ∈ before, Text.isBlank c) →
      (∀ c ∈ after, Text.isBlank c) →
        read (before ++ q :: (inner ++ q :: after)) = .text (String.ofList inner) := by
  refine ⟨bare_or_float_or_quoted, ?_, ?_⟩
  · intro text hbare
    exact ⟨read_plainChars_of_bare hbare, fun i hread => length_digits_of_read hread⟩
  · intro q before inner after hquote hbefore hafter
    exact read_enclosed hquote hbefore hafter inner

/-- Zeros and blanks in front of an integer are gone from its text, a day that no month has is a date,
one quote quotes nothing, and the text between two quotes may be padded, hold a quote and a newline. -/
theorem read_canonical_of_padded :
    let number := "\t-007\u3000".toList
    let date := " 2023-02-31 ".toList
    let lone := " it's ".toList
    let quoted := " \" 'null'\n\" ".toList
    (read number = .int (-7) ∧ (read number).plainChars = "-7".toList ∧
      read "-7".toList = read number) ∧
    ((read date).plainChars = "2023-02-31".toList ∧ read "2023-02-31".toList = read date) ∧
    (read lone = .text "it's" ∧ read "it's".toList = read lone) ∧
    read quoted = .text " 'null'\n" := by
  intro number date lone quoted
  obtain ⟨-, hbare, hquoted⟩ := read_canonical
  have hnumber : read number = .int (-7) := rfl
  have hdate : read date = .date ⟨2023, 2, 31, "2023-02-31"⟩ := rfl
  have hlone : read lone = .text "it's" := rfl
  have hunquoted : ¬ IsQuoted (Text.trim lone) := by
    rintro ⟨q, inner, hquote, hlone⟩
    have hhead : 'i' = q := (List.cons.inj hlone).1
    subst hhead
    rcases hquote with h | h <;> exact absurd h (by decide)
  refine ⟨⟨hnumber, rfl, ?_⟩, ⟨rfl, ?_⟩, ⟨hlone, ?_⟩, ?_⟩
  · exact (hbare number (.int hnumber)).1
  · exact (hbare date (.date hdate)).1
  · exact (hbare lone (.text hlone hunquoted)).1
  · have hblank : ∀ c ∈ [' '], Text.isBlank c := List.forall_mem_singleton.mpr rfl
    exact hquoted '"' [' '] " 'null'\n".toList [' '] (.inl rfl) hblank hblank

end NoteQuery.Scalar
