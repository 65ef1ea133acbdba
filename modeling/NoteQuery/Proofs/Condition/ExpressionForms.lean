import NoteQuery.Proofs.Condition.OperatorNames
import NoteQuery.Proofs.Note.NoteValues

/-!
# The forms of condition expressions

An expression of one line writes a condition if it has one of two forms: a field, a colon and the
name of an operator, with a value behind a second colon, or a field, a sign and a value, with blanks
around the sign or not. The sign is the longest one that stands there. An expression has one form at
most, and in that form one cut into its parts, but for blanks before a value that follows a sign.

* `Form`: the forms, as cuts of an expression into parts.
* `Form.parts?_eq`, `form_of_read`: reading finds the cut if there is one.
* `parse_iff_form`: which expressions write a condition, and which condition it is.
-/

namespace NoteQuery.Expression

/-! ## The two forms -/

/-- The texts of field names: word characters, at least one. -/
structure IsField (cs : List Char) : Prop where
  ne_nil : cs ≠ []
  word : ∀ c ∈ cs, Text.isWord c

/-- The longest sign that a text begins with. -/
structure IsLongestSign (sign : String) (cs : List Char) : Prop where
  mem : sign ∈ signs
  begins : sign.toList <+: cs
  longest : ∀ other ∈ signs, other.toList <+: cs → other.length ≤ sign.length

/-- An expression as its parts put together. -/
inductive Form : List Char → Parts → Prop
  | bare {field : List Char} {op : Operator} (hfield : IsField field) (hop : op.isUnary) :
    Form (field ++ ':' :: op.name.toList) (.named field op.name.toList none)
  | valued {field raw : List Char} {op : Operator} (hfield : IsField field) :
    Form (field ++ ':' :: (op.name.toList ++ ':' :: raw)) (.named field op.name.toList (some raw))
  | signed {field gap space raw : List Char} {sign : String} (hfield : IsField field)
      (hgap : ∀ c ∈ gap, Text.isBlank c) (hspace : ∀ c ∈ space, Text.isBlank c)
      (hsign : IsLongestSign sign (sign.toList ++ (space ++ raw))) :
    Form (field ++ (gap ++ (sign.toList ++ (space ++ raw)))) (.signed field sign raw)

namespace Parts

def field : Parts → String
  | named field _ _ => String.ofList field
  | signed field _ _ => String.ofList field

/-- The parts without blanks before a value that follows a sign. -/
def tight : Parts → Parts
  | signed field sign raw => signed field sign (Text.trimStart raw)
  | parts => parts

/-- The condition that a table with the operator and the value writes, with three exceptions: an
operator that needs no value has none, `in` has a list of values, and the plain equality sign asks
for a literal. -/
inductive Means : Parts → Condition → Prop
  | unary {field : List Char} {op : Operator} {raw : Option (List Char)} (hop : op.isUnary) :
    Means (.named field op.name.toList raw) (.operator op .null)
  | items {field raw : List Char} :
    Means (.named field Operator.within.name.toList (some raw))
      (.operator .within (.list ((Text.commaItems raw).map Scalar.read)))
  | named {field raw : List Char} {op : Operator} {c : Condition} (hop : op.isUnary = false)
      (hwithin : op ≠ .within)
      (hc : Condition.ofValue (.table [("op", .text op.name), ("value", Scalar.read raw)]) = .ok c) :
    Means (.named field op.name.toList (some raw)) c
  | equality {field raw : List Char} : Means (.signed field "=" raw) (.literal (Scalar.read raw))
  | signed {field raw : List Char} {sign : String} {c : Condition} (hsign : sign ≠ "=")
      (hc : Condition.ofValue (.table [("op", .text sign), ("value", Scalar.read raw)]) = .ok c) :
    Means (.signed field sign raw) c

end Parts

/-! ## Runs of characters -/

theorem isWord_of_isBlank {c : Char} (h : Text.isBlank c) : Text.isWord c = false := by
  cases hc : Text.isWord c with
  | false => rfl
  | true => rw [Text.isBlank_of_isWord hc] at h; cases h

/-- A run of characters of one kind ends where a character of another kind follows. -/
theorem cut_run {p : Char → Bool} {front : List Char} (hfront : ∀ c ∈ front, p c)
    {rest : List Char} (hrest : ∀ c ∈ rest.head?, p c = false) :
    (front ++ rest).takeWhile p = front ∧ (front ++ rest).dropWhile p = rest := by
  rw [List.takeWhile_append_of_pos hfront, List.dropWhile_append_of_pos hfront]
  cases rest with
  | nil => simp
  | cons c cs =>
    have hc : p c = false := hrest c rfl
    simp [hc]

theorem isOperatorChar_of_mem_name (op : Operator) :
    ∀ c ∈ op.name.toList, isOperatorChar c := by
  rw [← List.all_eq_true]
  cases op <;> decide

theorem name_isEmpty (op : Operator) : op.name.toList.isEmpty = false := by
  cases op <;> decide

theorem oneLine?_eq_self {cs : List Char} (h : '\n' ∉ cs) : oneLine? cs = some cs := by
  have hend : Text.withoutEnd ['\n'] cs = cs := by
    unfold Text.withoutEnd
    rw [if_neg]
    intro hsuffix
    exact h ((List.isSuffixOf_iff_suffix.mp hsuffix).subset List.mem_cons_self)
  unfold oneLine?
  simp [hend, h]

/-! ## Signs -/

theorem exists_cons_of_mem_signs {sign : String} (h : sign ∈ signs) :
    ∃ c cs, sign.toList = c :: cs ∧ Text.isWord c = false ∧ Text.isBlank c = false ∧ c ≠ ':' := by
  have hall : ∀ sign ∈ signs, ∃ c cs, sign.toList = c :: cs ∧ Text.isWord c = false ∧
      Text.isBlank c = false ∧ c ≠ ':' := by
    simp only [signs, List.forall_mem_cons]
    refine ⟨⟨'!', ['='], ?_⟩, ⟨'<', ['>'], ?_⟩, ⟨'>', ['='], ?_⟩, ⟨'<', ['='], ?_⟩,
      ⟨'=', ['='], ?_⟩, ⟨'=', [], ?_⟩, ⟨'>', [], ?_⟩, ⟨'<', [], ?_⟩, by simp⟩ <;> decide
  exact hall sign h

theorem exists_ofName_of_mem_signs {sign : String} (h : sign ∈ signs) :
    ∃ op, Operator.ofName sign = .ok op := by
  rw [Operator.exists_ofName_iff]
  left
  revert sign
  decide

/-- The signs are tried from the longest ones to the shortest ones. -/
theorem signs_pairwise : signs.Pairwise fun sign other => other.length ≤ sign.length := by
  decide

theorem IsLongestSign.of_find? {sign : String} {cs : List Char}
    (h : signs.find? (fun sign => sign.toList.isPrefixOf cs) = some sign) :
    IsLongestSign sign cs := by
  refine ⟨List.mem_of_find?_eq_some h, ?_, ?_⟩
  · have hbegins := List.find?_some h
    exact List.isPrefixOf_iff_prefix.mp hbegins
  · intro other hother hbegins
    obtain ⟨-, before, after, hsigns, hbefore⟩ := List.find?_eq_some_iff_append.mp h
    have hpairwise := signs_pairwise
    rw [hsigns] at hother hpairwise
    rcases List.mem_append.mp hother with hother | hother
    · have hno := hbefore other hother
      rw [List.isPrefixOf_iff_prefix.mpr hbegins] at hno
      cases hno
    · rcases List.mem_cons.mp hother with rfl | hother
      · exact Nat.le_refl _
      · exact List.rel_of_pairwise_cons (List.pairwise_append.mp hpairwise).2.1 hother

theorem IsLongestSign.unique {sign other : String} {cs : List Char} (h : IsLongestSign sign cs)
    (h' : IsLongestSign other cs) : sign = other := by
  have hlength : sign.toList.length = other.toList.length := by
    rw [String.length_toList, String.length_toList]
    exact Nat.le_antisymm (h'.longest sign h.mem h.begins) (h.longest other h'.mem h'.begins)
  apply String.toList_injective
  exact (List.prefix_of_prefix_length_le h.begins h'.begins (Nat.le_of_eq hlength)).eq_of_length
    hlength

theorem find?_signs_eq_some_iff {sign : String} {cs : List Char} :
    signs.find? (fun sign => sign.toList.isPrefixOf cs) = some sign ↔ IsLongestSign sign cs := by
  refine ⟨IsLongestSign.of_find?, fun h => ?_⟩
  have hsome : (signs.find? fun sign => sign.toList.isPrefixOf cs).isSome :=
    List.find?_isSome.mpr ⟨sign, h.mem, List.isPrefixOf_iff_prefix.mpr h.begins⟩
  obtain ⟨other, hother⟩ := Option.isSome_iff_exists.mp hsome
  rw [hother, (IsLongestSign.of_find? hother).unique h]

/-! ## Reading finds the cut -/

theorem parts?_append_colon {field : List Char} (h : IsField field) (rest : List Char) :
    parts? (field ++ ':' :: rest) = named? field rest := by
  have hcolon : ∀ c ∈ (':' :: rest).head?, Text.isWord c = false := by simp; decide
  obtain ⟨htake, hdrop⟩ := cut_run h.word hcolon
  have hne : field.isEmpty = false := by simpa using h.ne_nil
  simp [parts?, htake, hdrop, hne]

theorem parts?_append {field rest : List Char} (h : IsField field)
    (hrest : ∀ c ∈ rest.head?, Text.isWord c = false ∧ c ≠ ':') :
    parts? (field ++ rest) = signed? field rest := by
  obtain ⟨htake, hdrop⟩ := cut_run h.word fun c hc => (hrest c hc).1
  have hne : field.isEmpty = false := by simpa using h.ne_nil
  simp only [parts?, htake, hdrop, hne, Bool.false_eq_true, if_false]
  split
  · exact absurd rfl (hrest ':' rfl).2
  · rfl

theorem signed?_append {field gap space raw : List Char} {sign : String}
    (hgap : ∀ c ∈ gap, Text.isBlank c) (hspace : ∀ c ∈ space, Text.isBlank c)
    (hsign : IsLongestSign sign (sign.toList ++ (space ++ raw))) (hraw : '\n' ∉ raw) :
    signed? field (gap ++ (sign.toList ++ (space ++ raw))) =
      some (.signed field sign (Text.trimStart raw)) := by
  obtain ⟨c, cs, hcons, -, hblank, -⟩ := exists_cons_of_mem_signs hsign.mem
  have htrim : Text.trimStart (gap ++ (sign.toList ++ (space ++ raw))) =
      sign.toList ++ (space ++ raw) := by
    rw [Text.trimStart_append_blanks hgap, hcons, List.cons_append,
      Text.trimStart_cons_of_not_blank hblank]
  have hdrop : (sign.toList ++ (space ++ raw)).drop sign.length = space ++ raw := by
    rw [← String.length_toList]
    exact List.drop_left
  have hvalue : '\n' ∉ Text.trimStart raw := fun hmem =>
    hraw ((List.dropWhile_sublist Text.isBlank).mem hmem)
  simp only [signed?, htrim, find?_signs_eq_some_iff.mpr hsign, hdrop,
    Text.trimStart_append_blanks hspace, oneLine?_eq_self hvalue, Option.map_some]

theorem Form.parts?_eq {cs : List Char} {parts : Parts} (h : Form cs parts) (hline : '\n' ∉ cs) :
    parts? cs = some parts.tight := by
  cases h with
  | @bare field op hfield hop =>
    have hend : ∀ c ∈ ([] : List Char).head?, isOperatorChar c = false := by simp
    obtain ⟨htake, hdrop⟩ := cut_run (isOperatorChar_of_mem_name op) hend
    rw [List.append_nil] at htake hdrop
    rw [parts?_append_colon hfield]
    simp [named?, htake, hdrop, name_isEmpty, Parts.tight]
  | @valued field raw op hfield =>
    have hcolon : ∀ c ∈ (':' :: raw).head?, isOperatorChar c = false := by simp; decide
    obtain ⟨htake, hdrop⟩ := cut_run (isOperatorChar_of_mem_name op) hcolon
    have hraw : '\n' ∉ raw := fun hmem => hline (by simp [hmem])
    rw [parts?_append_colon hfield]
    simp [named?, htake, hdrop, name_isEmpty, oneLine?_eq_self hraw, Parts.tight]
  | @signed field gap space raw sign hfield hgap hspace hsign =>
    have hraw : '\n' ∉ raw := fun hmem => hline (by simp [hmem])
    rw [parts?_append hfield, signed?_append hgap hspace hsign hraw, Parts.tight]
    obtain ⟨c, cs, hcons, hword, -, hcolon⟩ := exists_cons_of_mem_signs hsign.mem
    cases gap with
    | nil =>
      rw [List.nil_append, hcons]
      rintro d ⟨⟩
      exact ⟨hword, hcolon⟩
    | cons b gap =>
      rintro d ⟨⟩
      have hblank : Text.isBlank b := hgap b List.mem_cons_self
      refine ⟨isWord_of_isBlank hblank, ?_⟩
      rintro rfl
      cases hblank

theorem Form.tight_eq {cs : List Char} {parts others : Parts} (h : Form cs parts)
    (h' : Form cs others) (hline : '\n' ∉ cs) : parts.tight = others.tight := by
  have heq := h.parts?_eq hline
  rw [h'.parts?_eq hline, Option.some.injEq] at heq
  exact heq.symm

/-! ## What is read has a form -/

theorem exists_cut {cs : List Char} {parts : Parts} (h : parts? cs = some parts) :
    ∃ field rest, cs = field ++ rest ∧ IsField field ∧
      ((∃ tail, rest = ':' :: tail ∧ named? field tail = some parts) ∨
        signed? field rest = some parts) := by
  have hcut : cs.takeWhile Text.isWord ++ cs.dropWhile Text.isWord = cs :=
    List.takeWhile_append_dropWhile
  unfold parts? at h
  dsimp only at h
  split at h
  · cases h
  · rename_i hne
    have hfield : IsField (cs.takeWhile Text.isWord) :=
      ⟨by simpa using hne, fun c hc => List.all_eq_true.mp List.all_takeWhile c hc⟩
    refine ⟨_, _, hcut.symm, hfield, ?_⟩
    split at h
    · rename_i tail htail
      exact Or.inl ⟨tail, htail, h⟩
    · exact Or.inr h

theorem exists_of_named? {field rest : List Char} {parts : Parts}
    (h : named? field rest = some parts) (hline : '\n' ∉ rest) :
    ∃ op, (∀ c ∈ op, isOperatorChar c) ∧
      ((rest = op ∧ parts = .named field op none) ∨
        ∃ raw, rest = op ++ ':' :: raw ∧ parts = .named field op (some raw)) := by
  have hcut : rest.takeWhile isOperatorChar ++ rest.dropWhile isOperatorChar = rest :=
    List.takeWhile_append_dropWhile
  refine ⟨rest.takeWhile isOperatorChar,
    fun c hc => List.all_eq_true.mp List.all_takeWhile c hc, ?_⟩
  unfold named? at h
  dsimp only at h
  split at h
  · cases h
  · split at h
    · rename_i hdrop
      rw [hdrop, List.append_nil] at hcut
      cases h
      exact Or.inl ⟨hcut.symm, rfl⟩
    · rename_i raw hdrop
      rw [hdrop] at hcut
      have hraw : '\n' ∉ raw := fun hmem => hline (by rw [← hcut]; simp [hmem])
      rw [oneLine?_eq_self hraw, Option.map_some, Option.some.injEq] at h
      exact Or.inr ⟨raw, hcut.symm, h.symm⟩
    · rename_i hdrop
      rw [hdrop] at hcut
      exact absurd (by rw [← hcut]; simp) hline
    · cases h

theorem exists_of_signed? {field rest : List Char} {parts : Parts}
    (h : signed? field rest = some parts) (hline : '\n' ∉ rest) :
    ∃ gap sign space raw, rest = gap ++ (sign.toList ++ (space ++ raw)) ∧
      (∀ c ∈ gap, Text.isBlank c) ∧ (∀ c ∈ space, Text.isBlank c) ∧
      IsLongestSign sign (sign.toList ++ (space ++ raw)) ∧ parts = .signed field sign raw := by
  obtain ⟨gap, hrest, hgap⟩ := Text.exists_trimStart rest
  unfold signed? at h
  dsimp only at h
  split at h
  · rename_i sign hfind
    have hsign := find?_signs_eq_some_iff.mp hfind
    obtain ⟨tail, htail⟩ := hsign.begins
    obtain ⟨space, hspace, hblank⟩ := Text.exists_trimStart tail
    have hdrop : (Text.trimStart rest).drop sign.length = tail := by
      rw [← htail, ← String.length_toList]
      exact List.drop_left
    have hvalue : '\n' ∉ Text.trimStart tail := by
      intro hmem
      apply hline
      rw [hrest, ← htail, hspace]
      simp [hmem]
    rw [hdrop, oneLine?_eq_self hvalue, Option.map_some, Option.some.injEq] at h
    refine ⟨gap, sign, space, Text.trimStart tail, ?_, hgap, hblank, ?_, h.symm⟩
    · rw [← hspace, htail]
      exact hrest
    · rw [← hspace, htail]
      exact hsign
  · cases h

theorem not_operatorChars_of_sign {sign : String} (h : sign ∈ Operator.signs.map Prod.fst) :
    ¬ ∀ c ∈ sign.toList, isOperatorChar c := by
  rw [← List.all_eq_true]
  revert sign
  decide

theorem eq_name_of_ofName {name : List Char} {op : Operator}
    (hname : ∀ c ∈ name, isOperatorChar c) (h : Operator.ofName (String.ofList name) = .ok op) :
    name = op.name.toList := by
  rcases Operator.ofName_eq_ok_iff.mp h with hsign | hname'
  · have hmem : String.ofList name ∈ Operator.signs.map Prod.fst := by
      obtain ⟨before, after, hsigns, -⟩ := List.lookup_eq_some_iff.mp hsign
      rw [hsigns]
      simp
    exact absurd (by simpa using hname) (not_operatorChars_of_sign hmem)
  · rw [← hname', String.toList_ofList]

theorem form_of_read {cs : List Char} {parts : Parts} {expression : String}
    {result : String × Condition} (hparts : parts? cs = some parts) (hline : '\n' ∉ cs)
    (hread : parts.read expression = .ok result) : Form cs parts := by
  obtain ⟨field, rest, rfl, hfield, hrest⟩ := exists_cut hparts
  have hline : '\n' ∉ rest := fun hmem => hline (List.mem_append_right _ hmem)
  rcases hrest with ⟨tail, rfl, hnamed⟩ | hsigned
  · obtain ⟨name, hname, hcut⟩ := exists_of_named? hnamed fun hmem =>
      hline (List.mem_cons_of_mem _ hmem)
    rcases hcut with ⟨rfl, rfl⟩ | ⟨raw, rfl, rfl⟩
    · cases hop : Operator.ofName (String.ofList tail) with
      | error e => simp [Parts.read, hop] at hread
      | ok op =>
        obtain rfl := eq_name_of_ofName hname hop
        cases hunary : op.isUnary with
        | false => simp [Parts.read, hunary] at hread
        | true => exact .bare hfield hunary
    · cases hop : Operator.ofName (String.ofList name) with
      | error e => simp [Parts.read, hop] at hread
      | ok op =>
        obtain rfl := eq_name_of_ofName hname hop
        exact .valued hfield
  · obtain ⟨gap, sign, space, raw, rfl, hgap, hspace, hsign, rfl⟩ := exists_of_signed? hsigned hline
    exact .signed hfield hgap hspace hsign

/-! ## What the parts mean -/

theorem normalize_of_isScalar {v : Value} (h : v.IsScalar) : v.normalize = v := by
  cases h with
  | null => rfl
  | textual h => cases h <;> rfl
  | number h => cases h <;> rfl

/-- A table with the name or the sign of an operator and a value. -/
theorem ofValue_operator {name : String} {op : Operator} (h : Operator.ofName name = .ok op)
    (raw : List Char) :
    Condition.ofValue (.table [("op", .text name), ("value", Scalar.read raw)]) =
      .ok (.operator op (Scalar.read raw)) := by
  have hop : Value.lookup? "op" [("op", .text name), ("value", Scalar.read raw)] =
      some (.text name) := rfl
  have hvalue : Value.lookup? "value" [("op", .text name), ("value", Scalar.read raw)] =
      some (Scalar.read raw) := rfl
  simp only [Condition.ofValue, hop, hvalue, Operator.ofValue_text, h, Value.orNull,
    normalize_of_isScalar (Scalar.isScalar_read raw)]

theorem read_trimStart (raw : List Char) : Scalar.read (Text.trimStart raw) = Scalar.read raw :=
  Scalar.read_eq_of_trim (Text.trim_trimStart raw)

/-- The parts of a form mean a condition, and they are read as that condition. -/
theorem Form.exists_means {cs : List Char} {parts : Parts} (h : Form cs parts)
    (expression : String) :
    ∃ c, parts.Means c ∧ parts.tight.read expression = .ok (parts.field, c) := by
  cases h with
  | @bare field op hfield hop =>
    exact ⟨_, .unary hop, by simp [Parts.tight, Parts.read, hop, Parts.field]⟩
  | @valued field raw op hfield =>
    cases hop : op.isUnary with
    | true => exact ⟨_, .unary hop, by simp [Parts.tight, Parts.read, hop, Parts.field]⟩
    | false =>
      by_cases hwithin : op = .within
      · subst hwithin
        exact ⟨_, .items, by simp [Parts.tight, Parts.read, hop, Parts.field]⟩
      · exact ⟨_, .named hop hwithin (ofValue_operator (Operator.ofName_name op) raw),
          by simp [Parts.tight, Parts.read, hop, hwithin, Parts.field]⟩
  | @signed field gap space raw sign hfield hgap hspace hsign =>
    by_cases heq : sign = "="
    · subst heq
      exact ⟨_, .equality, by simp [Parts.tight, Parts.read, Parts.field, read_trimStart]⟩
    · obtain ⟨op, hop⟩ := exists_ofName_of_mem_signs hsign.mem
      exact ⟨_, .signed heq (ofValue_operator hop raw),
        by simp [Parts.tight, Parts.read, Parts.field, read_trimStart, heq, hop]⟩

/-- An expression of one line writes a condition if and only if it has a form, and then the one that
its parts mean. However it is cut, the field, the operator or the sign, and the value are the same,
but for blanks before a value that follows a sign. -/
theorem parse_iff_form {expression : String} (hline : '\n' ∉ expression.toList) :
    ((∃ result, parse expression = .ok result) ↔ ∃ parts, Form expression.toList parts) ∧
      ((¬ ∃ parts, Form expression.toList parts) → ∃ e, parse expression = .error e) ∧
      (∀ parts others, Form expression.toList parts → Form expression.toList others →
        parts.tight = others.tight) ∧
      ∀ parts, Form expression.toList parts →
        ∃ c, parts.Means c ∧ parse expression = .ok (parts.field, c) := by
  have hmeans : ∀ parts, Form expression.toList parts →
      ∃ c, parts.Means c ∧ parse expression = .ok (parts.field, c) := by
    intro parts hform
    obtain ⟨c, hc, hread⟩ := hform.exists_means expression
    exact ⟨c, hc, by rw [parse, hform.parts?_eq hline]; exact hread⟩
  have hform : ∀ result, parse expression = .ok result →
      ∃ parts, Form expression.toList parts := by
    intro result hresult
    unfold parse at hresult
    split at hresult
    · rename_i parts hparts
      exact ⟨parts, form_of_read hparts hline hresult⟩
    · cases hresult
  refine ⟨⟨fun ⟨result, hresult⟩ => hform result hresult, ?_⟩, fun hnone => ?_,
    fun parts others h h' => h.tight_eq h' hline, hmeans⟩
  · rintro ⟨parts, hparts⟩
    obtain ⟨c, -, hparse⟩ := hmeans parts hparts
    exact ⟨_, hparse⟩
  · cases hparse : parse expression with
    | error e => exact ⟨e, rfl⟩
    | ok result => exact absurd (hform result hparse) hnone

/-- Of the three signs that begin `>== 3` the longest one counts. -/
theorem parse_iff_form_of_sign :
    let expression := "start >== 3"
    '\n' ∉ expression.toList ∧
      (∀ parts, Form expression.toList parts →
        parts.tight = .signed "start".toList ">=" "= 3".toList) ∧
      ∃ c, parse expression = .ok ("start", c) := by
  intro expression
  have hline : '\n' ∉ expression.toList := by decide
  have hfield : IsField "start".toList := ⟨by decide, List.all_eq_true.mp (by decide)⟩
  have hsign : IsLongestSign ">=" (">=".toList ++ ([] ++ "= 3".toList)) :=
    ⟨by decide, by decide, by decide⟩
  have hcut : expression.toList =
      "start".toList ++ ([' '] ++ (">=".toList ++ ([] ++ "= 3".toList))) := by decide
  have hform : Form expression.toList (.signed "start".toList ">=" "= 3".toList) := by
    rw [hcut]
    have hgap : ∀ c ∈ [' '], Text.isBlank c := List.all_eq_true.mp (by decide)
    exact .signed hfield hgap (List.forall_mem_nil _) hsign
  obtain ⟨-, -, hunique, hmeans⟩ := parse_iff_form hline
  obtain ⟨c, -, hparse⟩ := hmeans _ hform
  exact ⟨hline, fun parts hparts => hunique _ _ hparts hform, c, hparse⟩

end NoteQuery.Expression
