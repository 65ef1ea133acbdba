import NoteQuery.Proofs.Condition.ExpressionForms
import NoteQuery.Proofs.Condition.TextSearch
import NoteQuery.Proofs.Note.WritableNotes
import NoteQuery.Proofs.Value.TypedNumbers

/-!
# Searching for a number, a boolean or a date

The target of an expression `FIELD:contains:VALUE` is read as a scalar, and a search for a number is
a search for the text of the number. One would expect a note that holds what was typed to be found.
It is if the text of the target occurs in what was typed, and else it need not be: `-007` is read as
a number whose text is `-7`.

* `not_contains_typed`: the search that misses what was typed.
* `parse_valued`: the expressions and their targets.
* `found_iff`: what was typed is found in every text that holds it if and only if the text of the
  target occurs in it.
* `HoldsText`, `holdsText_read`: the spellings in which it does.
* `contains_typed`: both together.
-/

namespace NoteQuery

/-- Booleans, numbers and dates. -/
def Value.isTyped : Value → Bool
  | .bool _ | .int _ | .float _ | .date _ => true
  | _ => false

namespace Text

theorem isSmall_of_isDigit {c : Char} (h : c.isDigit) : IsSmall c := by
  obtain ⟨hlow, hhigh⟩ := toNat_of_isDigit h
  have hdigits : ∀ n < 58, 48 ≤ n → isNoCapital (Char.ofNat n) := by decide +kernel
  have hc := hdigits c.toNat (by omega) hlow
  rw [Char.ofNat_toNat] at hc
  exact isSmall_of_isNoCapital hc

theorem isSmall_of_isNumberChar {c : Char} (h : Binary64.IsNumberChar c) : IsSmall c := by
  rcases h with h | rfl | rfl | rfl | rfl
  · exact isSmall_of_isDigit h
  all_goals exact isSmall_of_isNoCapital (by decide +kernel)

theorem lower_eq_self {cs : List Char} (h : ∀ c ∈ cs, IsSmall c) : lower cs = cs :=
  lowerAfter_eq_self h []

end Text

namespace Scalar

/-- What is read as a boolean, a number or a date. -/
inductive Typed : List Char → Value → Prop
  | word (b : Bool) : Typed (if b then "true" else "false").toList (.bool b)
  | number {cs : List Char} {v : Value} (h : Numeral cs v) : Typed cs v
  | date {cs : List Char} {d : DateLiteral} (h : date? cs = some d) : Typed cs (.date d)

theorem typed_of_word? {cs : List Char} {v : Value} (h : word? cs = some v) (hv : v.isTyped) :
    Typed cs v := by
  unfold word? at h
  split at h
  · cases h
    cases hv
  · split at h
    · rename_i hcs
      cases h
      exact hcs ▸ .word true
    · split at h
      · rename_i hcs
        cases h
        exact hcs ▸ .word false
      · cases h

theorem typed_of_read {text : List Char} (h : (read text).isTyped) :
    Typed (Text.trim text) (read text) := by
  rcases read_cases text with ⟨v, hword, hread⟩ | ⟨v, hnumber, hread⟩ | ⟨d, hdate, hread⟩ | hread
  · rw [hread] at h ⊢
    exact typed_of_word? hword h
  · rw [hread]
    exact .number (number?_eq_some_iff.mp hnumber)
  · rw [hread]
    exact .date hdate
  · rw [hread] at h
    cases h

theorem isNumberChar_of_mem_numeral {cs : List Char} {v : Value} (h : Numeral cs v) {c : Char}
    (hc : c ∈ cs) : Binary64.IsNumberChar c := by
  cases h with
  | integer hsign hne hwhole =>
    rcases List.mem_append.mp hc with hc | hc
    · rcases hsign.eq_of_mem hc with rfl | rfl <;> simp [Binary64.IsNumberChar]
    · exact .inl (hwhole c hc)
  | fractional hsign hne hwhole hfraction =>
    simp only [List.mem_append, List.mem_cons] at hc
    rcases hc with hc | hc | rfl | hc
    · rcases hsign.eq_of_mem hc with rfl | rfl <;> simp [Binary64.IsNumberChar]
    · exact .inl (hwhole c hc)
    · simp [Binary64.IsNumberChar]
    · exact .inl (hfraction c hc)

theorem Numeral.ne_nil {cs : List Char} {v : Value} (h : Numeral cs v) : cs ≠ [] := by
  cases h with
  | integer hsign hne hwhole => exact List.append_ne_nil_of_right_ne_nil _ hne
  | fractional hsign hne hwhole hfraction => simp

theorem word?_of_numeral {cs : List Char} {v : Value} (h : Numeral cs v) : word? cs = none := by
  obtain ⟨c, cs, rfl⟩ := List.exists_cons_of_ne_nil h.ne_nil
  apply word?_eq_none
  rcases isNumberChar_of_mem_numeral h List.mem_cons_self with hc | rfl | rfl | rfl | rfl
  · exact ⟨ne_of_isDigit hc (by decide), ne_of_isDigit hc (by decide),
      ne_of_isDigit hc (by decide), ne_of_isDigit hc (by decide)⟩
  all_goals decide

theorem read_of_numeral {text : List Char} {v : Value} (h : Numeral (Text.trim text) v) :
    read text = v := by
  simp only [read, word?_of_numeral h, number?_eq_some_iff.mpr h]

theorem isNumberChar_of_mem_date {cs : List Char} {d : DateLiteral} (h : date? cs = some d)
    {c : Char} (hc : c ∈ cs) : Binary64.IsNumberChar c := by
  obtain ⟨hwell, hraw⟩ := isWellFormed_of_date? h
  rcases eq_hyphen_or_isDigit_of_mem_raw hwell (hraw ▸ hc) with rfl | hc
  · simp [Binary64.IsNumberChar]
  · exact .inl hc

theorem isSmall_of_mem_word {b : Bool} {c : Char} (h : c ∈ (if b then "true" else "false").toList) :
    Text.IsSmall c := by
  have hall : ∀ b : Bool, (if b then "true" else "false").toList.all Text.isNoCapital := by
    decide +kernel
  exact Text.isSmall_of_isNoCapital (List.all_eq_true.mp (hall b) c h)

/-- Booleans, numbers and dates are typed in small letters. -/
theorem Typed.isSmall {cs : List Char} {v : Value} (h : Typed cs v) : ∀ c ∈ cs, Text.IsSmall c := by
  intro c hc
  cases h with
  | word b => exact isSmall_of_mem_word hc
  | number h => exact Text.isSmall_of_isNumberChar (isNumberChar_of_mem_numeral h hc)
  | date h => exact Text.isSmall_of_isNumberChar (isNumberChar_of_mem_date h hc)

theorem isSmall_of_mem_chars {x : Binary64} {c : Char} (h : c ∈ x.chars) : Text.IsSmall c := by
  have hletters : ∀ cs ∈ ["nan".toList, "inf".toList, "-inf".toList],
      cs.all Text.isNoCapital := by decide +kernel
  have hsmall : ∀ cs ∈ ["nan".toList, "inf".toList, "-inf".toList], c ∈ cs → Text.IsSmall c :=
    fun cs hcs hc => Text.isSmall_of_isNoCapital (List.all_eq_true.mp (hletters cs hcs) c hc)
  cases x with
  | nan => exact hsmall _ (by simp [Binary64.chars]) h
  | infinite negative => cases negative <;> exact hsmall _ (by simp [Binary64.chars]) h
  | finite negative units =>
    exact Text.isSmall_of_isNumberChar (Binary64.isNumberChar_of_mem_write h)

/-- Their texts are in small letters, too. -/
theorem Typed.isSmall_plainChars {cs : List Char} {v : Value} (h : Typed cs v) :
    ∀ c ∈ v.plainChars, Text.IsSmall c := by
  intro c hc
  cases h with
  | word b => exact isSmall_of_mem_word hc
  | number h =>
    cases isNumber_of_number? (number?_eq_some_iff.mpr h) with
    | int i =>
      rcases eq_minus_or_isDigit_of_mem_intChars (i := i) hc with rfl | hc
      · exact Text.isSmall_of_isNumberChar (.inr (.inr (.inl rfl)))
      · exact Text.isSmall_of_isDigit hc
    | float hx => exact isSmall_of_mem_chars hc
  | date h =>
    have hraw := (isWellFormed_of_date? h).2
    exact Text.isSmall_of_isNumberChar (isNumberChar_of_mem_date h (hraw ▸ hc))

theorem Typed.kinds {cs : List Char} {v : Value} (h : Typed cs v) :
    (∃ b, v = .bool b) ∨ (∃ d, v = .date d) ∨ Numeral cs v := by
  cases h with
  | word b => exact .inl ⟨b, rfl⟩
  | number h => exact .inr (.inr h)
  | date h => exact .inr (.inl ⟨_, rfl⟩)

/-- Booleans and dates are typed as their texts. -/
theorem Typed.words {cs : List Char} {v : Value} (h : Typed cs v)
    (hv : (∃ b, v = .bool b) ∨ ∃ d, v = .date d) : v.plainChars <:+: cs := by
  cases h with
  | word b => exact List.infix_rfl
  | number h =>
    have hnumber := isNumber_of_number? (number?_eq_some_iff.mpr h)
    rcases hv with ⟨b, rfl⟩ | ⟨d, rfl⟩ <;> cases hnumber
  | date h =>
    have hraw := (isWellFormed_of_date? h).2
    exact hraw ▸ List.infix_rfl

end Scalar

namespace Expression

theorem parse_valued (op : Operator) {field raw : String} (hfield : IsField field.toList)
    (hline : '\n' ∉ raw.toList) (hunary : op.isUnary = false) (hwithin : op ≠ .within) :
    parse (field ++ (":" ++ op.name ++ ":") ++ raw) =
      .ok (field, .operator op (Scalar.read raw.toList)) := by
  have hcolon : ∀ c ∈ (':' :: raw.toList).head?, isOperatorChar c = false := by simp; decide
  obtain ⟨htake, hdrop⟩ := cut_run (isOperatorChar_of_mem_name op) hcolon
  have hchars : (field ++ (":" ++ op.name ++ ":") ++ raw).toList =
      field.toList ++ ':' :: (op.name.toList ++ ':' :: raw.toList) := by simp
  have hparts : parts? (field ++ (":" ++ op.name ++ ":") ++ raw).toList =
      some (.named field.toList op.name.toList (some raw.toList)) := by
    rw [hchars, parts?_append_colon hfield]
    simp [named?, htake, hdrop, name_isEmpty, oneLine?_eq_self hline]
  rw [parse, hparts]
  simp [Parts.read, hunary, hwithin]

/-! ## What is found -/

theorem test_contains_typed {target : Value} (h : target.isTyped) (hwritable : target.isWritable)
    {r : Record} {field s : String} (hget : r.get field = .text s) :
    (Condition.operator .contains target).test r field =
        .ok (.bool (Text.hasPiece (Text.lower target.plainChars) (Text.lower s.toList))) ∧
      (Condition.operator .notContains target).test r field =
        .ok (.bool (!Text.hasPiece (Text.lower target.plainChars) (Text.lower s.toList))) := by
  have hcontains : Operator.contains.answers (.text s) target := hwritable
  have hnot : Operator.notContains.answers (.text s) target := hwritable
  rw [Condition.test, Condition.test, hget, if_pos hcontains, if_pos hnot]
  cases target <;> first | exact ⟨rfl, rfl⟩ | cases h

/-- What was typed is found in every text that holds it if and only if the text of the target occurs
in it. -/
theorem found_iff {typed : List Char} {target : Value} (h : Scalar.Typed typed target)
    (htarget : target.isTyped) (hwritable : target.isWritable) (field : String) :
    (∀ (r : Record) (s : String), r.get field = .text s → typed <:+: s.toList →
      (Condition.operator .contains target).test r field = .ok (.bool true) ∧
        (Condition.operator .notContains target).test r field = .ok (.bool false)) ↔
      target.plainChars <:+: typed := by
  have htext : Text.lower target.plainChars = target.plainChars :=
    Text.lower_eq_self h.isSmall_plainChars
  have htyped : Text.lower typed = typed := Text.lower_eq_self h.isSmall
  constructor
  · intro hall
    -- A note whose field is what was typed.
    let r : Record := ⟨{}, .ofList [(field, .text (String.ofList typed))]⟩
    have hget : r.get field = .text (String.ofList typed) := by
      rw [Record.get, Record.get?, OrderedMap.get?_ofList]
      simp [Value.orNull]
    obtain ⟨hfound, -⟩ := hall r _ hget (by rw [String.toList_ofList])
    rw [(test_contains_typed htarget hwritable hget).1, htext, String.toList_ofList, htyped] at hfound
    simpa [Text.hasPiece_iff] using hfound
  · rintro hoccurs r s hget ⟨before, after, hs⟩
    have hsigma : 'Σ' ∉ typed := fun hmem => (h.isSmall _ hmem).ne_sigma rfl
    have hlower := (Text.keepsSigmas_of_notMem hsigma before after).lower_occurs
    rw [htyped, hs] at hlower
    have hfound : Text.hasPiece (Text.lower target.plainChars) (Text.lower s.toList) = true := by
      rw [Text.hasPiece_iff, htext]
      exact hoccurs.trans hlower
    obtain ⟨hcontains, hnot⟩ := test_contains_typed htarget hwritable hget
    rw [hfound] at hcontains hnot
    exact ⟨hcontains, hnot⟩

/-- A note on agent `-007` does not hold the text of the number that was typed. -/
theorem not_contains_typed :
    ¬ ∀ field raw : String, IsField field.toList → '\n' ∉ raw.toList →
      (Scalar.read raw.toList).isTyped →
      ∃ c d : Condition, parse (field ++ ":contains:" ++ raw) = .ok (field, c) ∧
        parse (field ++ ":not_contains:" ++ raw) = .ok (field, d) ∧
        ∀ (r : Record) (s : String), r.get field = .text s → Text.trim raw.toList <:+: s.toList →
          c.test r field = .ok (.bool true) ∧ d.test r field = .ok (.bool false) := by
  intro h
  have hfield : IsField "summary".toList := ⟨by decide, List.all_eq_true.mp (by decide)⟩
  have hread : Scalar.read "-007".toList = .int (-7) := by
    have htrim : Text.trim "-007".toList = ['-'] ++ ['0', '0', '7'] := by decide
    apply Scalar.read_of_numeral
    rw [htrim]
    exact .integer (.inr (.inr rfl)) (by decide) (List.all_eq_true.mp (by decide))
  have hline : '\n' ∉ "-007".toList := by decide
  obtain ⟨c, d, hcontains, -, htest⟩ := h "summary" "-007" hfield hline (by rw [hread]; rfl)
  have hparse := parse_valued .contains hfield hline rfl (by decide)
  rw [hread] at hparse
  obtain rfl : c = .operator .contains (.int (-7)) :=
    (Prod.mk.inj (Except.ok.inj (hcontains.symm.trans hparse))).2
  have htyped : Text.trim "-007".toList <:+: "Agent -007 reports".toList :=
    ⟨"Agent ".toList, " reports".toList, by decide⟩
  have hget : (Record.mk {} (.ofList [("summary", .text "Agent -007 reports")])).get "summary" =
    .text "Agent -007 reports" := rfl
  have hfound := (htest _ _ hget htyped).1
  rw [(test_contains_typed rfl (by decide) hget).1] at hfound
  have hno : Text.hasPiece (Text.lower (Value.int (-7)).plainChars)
      (Text.lower "Agent -007 reports".toList) = false := by decide +kernel
  rw [hno] at hfound
  cases hfound

/-! ## Spellings -/

/-- The spellings in which the text of the target occurs in what was typed. -/
structure HoldsText (typed : List Char) (target : Value) : Prop where
  /-- Everything else that was typed is a number: an integer, or a decimal with a point. -/
  kinds : (∃ b, target = .bool b) ∨ (∃ d, target = .date d) ∨ Scalar.Numeral typed target
  words : (∃ b, target = .bool b) ∨ (∃ d, target = .date d) → target.plainChars <:+: typed
  integers : ∀ sign whole : List Char, typed = sign ++ whole → Scalar.IsSign sign → whole ≠ [] →
    (∀ c ∈ whole, c.isDigit) →
    (target.plainChars <:+: typed ↔ whole.length ≤ Text.digitLimit ∧
      (sign = ['-'] → Scalar.HasSpareZero whole → Text.natOfDigits whole = 0))
  decimals : ∀ sign whole fraction : List Char, typed = sign ++ (whole ++ '.' :: fraction) →
    Scalar.IsSign sign → (∀ c ∈ whole, c.isDigit) → (∀ c ∈ fraction, c.isDigit) →
    whole ≠ [] ∨ fraction ≠ [] →
    (target.plainChars <:+: typed → whole ≠ [] ∧ fraction ≠ []) ∧
      (Scalar.IsShort whole fraction →
        (target.plainChars <:+: typed ↔
          whole ≠ [] ∧ fraction ≠ [] ∧ (sign = ['-'] → ¬ Scalar.HasSpareZero whole)))

theorem holdsText_read {text : List Char} (h : (Scalar.read text).isTyped) :
    HoldsText (Text.trim text) (Scalar.read text) := by
  have htyped := Scalar.typed_of_read h
  refine ⟨htyped.kinds, htyped.words, ?_, ?_⟩
  · intro sign whole heq hsign hne hwhole
    have hnumeral : Scalar.Numeral (Text.trim text) (Scalar.integer (sign == ['-']) whole) := by
      rw [heq]
      exact .integer hsign hne hwhole
    rw [Scalar.read_of_numeral hnumeral, heq]
    exact Scalar.integer_occurs_iff hsign hne hwhole
  · intro sign whole fraction heq hsign hwhole hfraction hne
    have hnumeral : Scalar.Numeral (Text.trim text)
        (Scalar.fractional (sign == ['-']) whole fraction) := by
      rw [heq]
      exact .fractional hsign hne hwhole hfraction
    rw [Scalar.read_of_numeral hnumeral, heq]
    exact ⟨Scalar.sides_of_fractional_occurs hsign hwhole hfraction,
      Scalar.fractional_occurs_iff hsign hwhole hfraction⟩

/-- An expression that looks for a boolean, a number or a date finds every text that holds what was
typed, and its negation finds none, if and only if the text of the target occurs in what was typed.
-/
theorem contains_typed {field raw : String} (hfield : IsField field.toList)
    (hline : '\n' ∉ raw.toList) (htyped : (Scalar.read raw.toList).isTyped) :
    parse (field ++ ":contains:" ++ raw) =
        .ok (field, .operator .contains (Scalar.read raw.toList)) ∧
      parse (field ++ ":not_contains:" ++ raw) =
        .ok (field, .operator .notContains (Scalar.read raw.toList)) ∧
      ((∀ (r : Record) (s : String), r.get field = .text s → Text.trim raw.toList <:+: s.toList →
        (Condition.operator .contains (Scalar.read raw.toList)).test r field = .ok (.bool true) ∧
          (Condition.operator .notContains (Scalar.read raw.toList)).test r field =
            .ok (.bool false)) ↔
        (Scalar.read raw.toList).plainChars <:+: Text.trim raw.toList) ∧
      HoldsText (Text.trim raw.toList) (Scalar.read raw.toList) := by
  have hcontains := parse_valued .contains hfield hline rfl (by decide)
  have hnot := parse_valued .notContains hfield hline rfl (by decide)
  have hwritable := Scalar.isWritable_read raw.toList
  exact ⟨hcontains, hnot, found_iff (Scalar.typed_of_read htyped) htyped hwritable field,
    holdsText_read htyped⟩

/-- A price is found with the zero at its end that its text does not have. -/
theorem contains_typed_of_price :
    let raw := " 3.50"
    (Scalar.read raw.toList).isTyped ∧
      parse ("note" ++ ":contains:" ++ raw) =
        .ok ("note", .operator .contains (Scalar.read raw.toList)) ∧
      ∀ (r : Record) (s : String), r.get "note" = .text s → "3.50".toList <:+: s.toList →
        (Condition.operator .contains (Scalar.read raw.toList)).test r "note" =
            .ok (.bool true) ∧
          (Condition.operator .notContains (Scalar.read raw.toList)).test r "note" =
            .ok (.bool false) := by
  intro raw
  have hfield : IsField "note".toList := ⟨by decide, List.all_eq_true.mp (by decide)⟩
  have htrim : Text.trim raw.toList = [] ++ (['3'] ++ '.' :: ['5', '0']) := by decide
  have hwhole : ∀ c ∈ ['3'], c.isDigit := List.all_eq_true.mp (by decide)
  have hfraction : ∀ c ∈ ['5', '0'], c.isDigit := List.all_eq_true.mp (by decide)
  have hnumeral : Scalar.Numeral (Text.trim raw.toList)
      (Scalar.fractional false ['3'] ['5', '0']) := by
    rw [htrim]
    exact .fractional (.inl rfl) (.inl (by decide)) hwhole hfraction
  have htyped : (Scalar.read raw.toList).isTyped = true := by
    rw [Scalar.read_of_numeral hnumeral]
    rfl
  have hshort : Scalar.IsShort ['3'] ['5', '0'] := ⟨⟨35, 1, by decide⟩, .inr (by decide)⟩
  obtain ⟨hparse, -, hfound, hholds⟩ := contains_typed hfield (by decide) htyped
  have hdecimal :=
    (hholds.decimals _ _ _ htrim (.inl rfl) hwhole hfraction (.inl (by decide))).2 hshort
  refine ⟨htyped, hparse, ?_⟩
  rw [htrim] at hfound hdecimal
  exact hfound.mpr (hdecimal.mpr ⟨by decide, by decide, fun hminus => by cases hminus⟩)

end Expression

end NoteQuery
