import NoteQuery.Proofs.Note.LineKinds
import NoteQuery.Proofs.Note.ScalarTexts
import NoteQuery.Proofs.OrderedMaps

/-!
# The fields of a body

Which fields a body has, told from its lines alone. The names are those of the key lines, each once,
in the order of their first key lines. The value of a name comes from its last key line: the list in
brackets after the colon, the values of the item lines up to the next key line if nothing is after
the colon, or else the scalar after the colon.

* `sections_append_key`: a key line ends the section before it and begins a new one.
* `fields_eq_onePass`: reading line by line, with the list of the current key written down at the
  next key line only, leads to the same fields.
* `fields_eq_iff`: the fields are the one map that the lines of the body say.
-/

namespace NoteQuery.Body

/-! ## Sections -/

theorem sections_append_key (before : List Line) (name text : List Char) (after : List Line) :
    sections (before ++ .key name text :: after) =
      ((sections before).1, (sections before).2 ++ (sections (.key name text :: after)).2) := by
  induction before with
  | nil => rfl
  | cons l ls ih =>
    cases l with
    | key n t => simp [sections, ih]
    | item i => simp [sections, ih]
    | other => simpa [sections] using ih

/-- Lines that begin with a key line, or none at all, leave the section before them as it is. -/
theorem sections_append {after : List Line}
    (h : after = [] ∨ ∃ name text ls, after = .key name text :: ls) (before : List Line) :
    sections (before ++ after) =
      ((sections before).1, (sections before).2 ++ (sections after).2) := by
  rcases h with rfl | ⟨name, text, ls, rfl⟩
  · simp [sections]
  · exact sections_append_key before name text ls

theorem sections_of_no_key {ls : List Line} (h : ∀ name text, .key name text ∉ ls) :
    (sections ls).2 = [] := by
  induction ls with
  | nil => rfl
  | cons l ls ih =>
    have ih := ih fun name text hmem => h name text (List.mem_cons_of_mem _ hmem)
    cases l with
    | key n t => exact absurd List.mem_cons_self (h n t)
    | item i => exact ih
    | other => exact ih

/-- Every section comes from a key line: its items are those before the next key line, and the
sections behind it are those of the lines behind it. -/
theorem exists_key_of_sections {ls : List Line} {before after : List Section} {s : Section}
    (h : (sections ls).2 = before ++ s :: after) :
    ∃ front tail, ls = front ++ .key s.name s.text :: tail ∧ s.items = (sections tail).1 ∧
      after = (sections tail).2 := by
  induction ls generalizing before with
  | nil => simp [sections] at h
  | cons l ls ih =>
    cases l with
    | key n t =>
      cases before with
      | nil =>
        simp only [sections, List.nil_append, List.cons.injEq] at h
        obtain ⟨rfl, rfl⟩ := h
        exact ⟨[], ls, rfl, rfl, rfl⟩
      | cons b bs =>
        simp only [sections, List.cons_append, List.cons.injEq] at h
        obtain ⟨front, tail, rfl, hrest⟩ := ih h.2
        exact ⟨.key n t :: front, tail, rfl, hrest⟩
    | item i =>
      obtain ⟨front, tail, rfl, hrest⟩ := ih h
      exact ⟨.item i :: front, tail, rfl, hrest⟩
    | other =>
      obtain ⟨front, tail, rfl, hrest⟩ := ih h
      exact ⟨.other :: front, tail, rfl, hrest⟩

theorem exists_section_of_key {ls : List Line} {name text : List Char}
    (h : .key name text ∈ ls) : ∃ s ∈ (sections ls).2, s.name = name := by
  obtain ⟨before, after, rfl⟩ := List.append_of_mem h
  rw [sections_append_key]
  exact ⟨⟨name, text, (sections after).1⟩, by simp [sections], rfl⟩

theorem key_mem_of_section {ls : List Line} {s : Section} (h : s ∈ (sections ls).2) :
    .key s.name s.text ∈ ls := by
  obtain ⟨before, after, hs⟩ := List.append_of_mem h
  obtain ⟨front, tail, rfl, -⟩ := exists_key_of_sections hs
  simp

/-! ## Reading in one pass -/

/-- The state of a reader that takes one line at a time: the fields written down so far, and the key
whose list is being collected with the values collected so far. -/
structure Pass where
  fields : OrderedMap Value
  collecting : Option (List Char × List Value)

namespace Pass

def start : Pass := ⟨.empty, none⟩

/-- The fields once the list that is being collected, continued by `vs`, is written down. -/
def closeWith (p : Pass) (vs : List Value) : OrderedMap Value :=
  match p.collecting with
  | some (name, collected) => p.fields.insert (String.ofList name) (.list (collected ++ vs))
  | none => p.fields

def step (p : Pass) : Line → Pass
  | .other => p
  | .item i =>
    ⟨p.fields, p.collecting.map fun c => (c.1, c.2 ++ [Scalar.read i.text])⟩
  | .key name text =>
    match Scalar.readList? text with
    | some vs => ⟨(p.closeWith []).insert (String.ofList name) (.list vs), none⟩
    | none =>
      if Text.trim text = [] then ⟨p.closeWith [], some (name, [])⟩
      else ⟨(p.closeWith []).insert (String.ofList name) (Scalar.read text), none⟩

end Pass

/-- The reader before some lines and the sections of these lines: the first items go to the list
that is being collected, and every section to a field. -/
theorem closeWith_foldl_step (p : Pass) (ls : List Line) :
    (ls.foldl Pass.step p).closeWith [] =
      ((sections ls).2.map Section.entry).foldl (fun m e => m.insert e.1 e.2)
        (p.closeWith ((sections ls).1.map fun i => Scalar.read i.text)) := by
  induction ls generalizing p with
  | nil => rfl
  | cons l ls ih =>
    rw [List.foldl_cons, ih]
    cases l with
    | other => rfl
    | item i =>
      obtain ⟨fields, collecting⟩ := p
      cases collecting with
      | none => rfl
      | some c => simp [Pass.step, Pass.closeWith, sections]
    | key name text =>
      simp only [sections, List.map_cons, List.map_nil, List.foldl_cons]
      congr 1
      simp only [Pass.step, Section.entry, Section.value, Section.isBlock, beq_iff_eq]
      by_cases htrim : Text.trim text = []
      · have hlist : Scalar.readList? text = none := by simp [Scalar.readList?, htrim]
        simp only [hlist, htrim, if_true]
        rfl
      · cases hlist : Scalar.readList? text with
        | none =>
          simp only [htrim, if_false]
          rfl
        | some vs =>
          simp only [htrim, if_false]
          rfl

/-- Reading a body line by line leads to its fields. -/
theorem fields_eq_onePass (body : List Char) :
    fields body = (((Text.lines body).map Line.ofText).foldl Pass.step .start).closeWith [] := by
  rw [closeWith_foldl_step]
  rfl

/-! ## What the lines say -/

/-- The names of the key lines, in order. -/
inductive KeyNames : List (List Char) → List (List Char) → Prop
  | nil : KeyNames [] []
  | key {line name text ls names} : IsKeyLine line name text → KeyNames ls names →
      KeyNames (line :: ls) (name :: names)
  | skip {line ls names} : (∀ name text, ¬ IsKeyLine line name text) → KeyNames ls names →
      KeyNames (line :: ls) names

/-- The values of the item lines, in order. -/
inductive ItemValues : List (List Char) → List Value → Prop
  | nil : ItemValues [] []
  | item {line text ls vs} : IsItemLine line text → ItemValues ls vs →
      ItemValues (line :: ls) (Scalar.read text :: vs)
  | skip {line ls vs} : (∀ text, ¬ IsItemLine line text) → ItemValues ls vs →
      ItemValues (line :: ls) vs

/-- The value that a key line gives with `text` after its colon and the lines `between` it and the
next key line. -/
inductive Gives (text : List Char) (between : List (List Char)) : Value → Prop
  | bracketed {inner} : Text.trim text = '[' :: (inner ++ [']']) →
      Gives text between (.list ((Text.commaItems inner).map Scalar.read))
  | block {vs} : Text.trim text = [] → ItemValues between vs → Gives text between (.list vs)
  | scalar : Text.trim text ≠ [] → (∀ inner, Text.trim text ≠ '[' :: (inner ++ [']'])) →
      Gives text between (Scalar.read text)

/-- The last key line with this name gives the value `v`. -/
def LastGives (lines : List (List Char)) (name : String) (v : Value) : Prop :=
  ∃ before line text between after,
    lines = before ++ line :: (between ++ after) ∧ IsKeyLine line name.toList text ∧
      (∀ l ∈ between, ∀ n t, ¬ IsKeyLine l n t) ∧
      (after = [] ∨ ∃ l ls n t, after = l :: ls ∧ IsKeyLine l n t) ∧
      (∀ l ∈ after, ∀ t, ¬ IsKeyLine l name.toList t) ∧ Gives text between v

theorem IsKeyLine.ofText {line name text : List Char} (h : IsKeyLine line name text) :
    Line.ofText line = .key name (Text.trimStart text) :=
  ofText_eq_key_iff.mpr ⟨text, h, rfl⟩

theorem not_isKeyLine_of_ofText {line : List Char} {l : Line} (h : Line.ofText line = l)
    (hl : ∀ name text, l ≠ .key name text) (name text : List Char) :
    ¬ IsKeyLine line name text := by
  intro hkey
  exact hl name (Text.trimStart text) (h.symm.trans hkey.ofText)

theorem ofText_ne_key {line : List Char} (h : ∀ name text, ¬ IsKeyLine line name text)
    (name text : List Char) : Line.ofText line ≠ .key name text := by
  intro hline
  obtain ⟨t, hkey, -⟩ := ofText_eq_key_iff.mp hline
  exact h name t hkey

theorem key_notMem_map_ofText {ls : List (List Char)} (h : ∀ l ∈ ls, ∀ n t, ¬ IsKeyLine l n t)
    (name text : List Char) : .key name text ∉ ls.map Line.ofText := by
  intro hmem
  obtain ⟨l, hl, hline⟩ := List.mem_map.mp hmem
  exact ofText_ne_key (h l hl) name text hline

theorem keyNames_iff {ls names : List (List Char)} :
    KeyNames ls names ↔ (sections (ls.map Line.ofText)).2.map Section.name = names := by
  constructor
  · intro h
    induction h with
    | nil => rfl
    | key hkey _ ih =>
      rw [List.map_cons, hkey.ofText, sections, List.map_cons, ih]
    | @skip line ls names hline _ ih =>
      rw [List.map_cons]
      cases h : Line.ofText line with
      | key n t => exact absurd h (ofText_ne_key hline n t)
      | item i => exact ih
      | other => exact ih
  · rintro rfl
    induction ls with
    | nil => exact .nil
    | cons line ls ih =>
      rw [List.map_cons]
      cases h : Line.ofText line with
      | key n t =>
        obtain ⟨text, hkey, -⟩ := ofText_eq_key_iff.mp h
        exact .key hkey ih
      | item i => exact .skip (not_isKeyLine_of_ofText h (by simp)) ih
      | other => exact .skip (not_isKeyLine_of_ofText h (by simp)) ih

theorem itemValues_iff {ls : List (List Char)} {vs : List Value}
    (hkey : ∀ l ∈ ls, ∀ n t, ¬ IsKeyLine l n t) :
    ItemValues ls vs ↔
      (sections (ls.map Line.ofText)).1.map (fun i => Scalar.read i.text) = vs := by
  constructor
  · intro h
    induction h with
    | nil => rfl
    | item hitem _ ih =>
      obtain ⟨i, hi, htrim⟩ := hitem.exists_ofText
      rw [List.map_cons, hi, sections, List.map_cons, Scalar.read_eq_of_trim htrim,
        ih fun l hl => hkey l (List.mem_cons_of_mem _ hl)]
    | @skip line ls vs hline _ ih =>
      have ih := ih fun l hl => hkey l (List.mem_cons_of_mem _ hl)
      rw [List.map_cons]
      cases h : Line.ofText line with
      | key n t => exact absurd h (ofText_ne_key (hkey line List.mem_cons_self) n t)
      | item i => exact absurd (isItemLine_of_ofText h) (hline i.text)
      | other => exact ih
  · rintro rfl
    induction ls with
    | nil => exact .nil
    | cons line ls ih =>
      have ih := ih fun l hl => hkey l (List.mem_cons_of_mem _ hl)
      rw [List.map_cons]
      cases h : Line.ofText line with
      | key n t => exact absurd h (ofText_ne_key (hkey line List.mem_cons_self) n t)
      | item i => exact .item (isItemLine_of_ofText h) ih
      | other =>
        refine .skip (fun text hitem => ?_) ih
        obtain ⟨i, hi, -⟩ := hitem.exists_ofText
        simp [hi] at h

/-- What a key line gives is the value of its section. -/
theorem gives_iff (name : List Char) {text : List Char} {between : List (List Char)} {v : Value}
    (hline : '\n' ∉ text) (hkey : ∀ l ∈ between, ∀ n t, ¬ IsKeyLine l n t) :
    Gives text between v ↔
      Section.value ⟨name, Text.trimStart text, (sections (between.map Line.ofText)).1⟩ = v := by
  have hstart : '\n' ∉ Text.trimStart text := by
    obtain ⟨bs, htext, -⟩ := Text.exists_trimStart text
    exact fun hmem => hline (htext ▸ List.mem_append_right _ hmem)
  have hread : Scalar.read (Text.trimStart text) = Scalar.read text :=
    Scalar.read_eq_of_trim (Text.trim_trimStart text)
  simp only [Section.value, Section.isBlock, Text.trim_trimStart, beq_iff_eq]
  constructor
  · rintro (@⟨inner, htrim⟩ | @⟨vs, htrim, hitems⟩ | ⟨hne, hlist⟩)
    · have hsome := (Scalar.readList?_eq_some_iff hstart).mpr
        ⟨inner, by rw [Text.trim_trimStart, htrim], rfl⟩
      rw [if_neg (by simp [htrim]), hsome]
    · rw [if_pos htrim, (itemValues_iff hkey).mp hitems]
    · rw [if_neg hne]
      cases h : Scalar.readList? (Text.trimStart text) with
      | none => exact hread
      | some vs =>
        obtain ⟨inner, htrim, -⟩ := (Scalar.readList?_eq_some_iff hstart).mp h
        rw [Text.trim_trimStart] at htrim
        exact absurd htrim (hlist inner)
  · rintro rfl
    split
    · rename_i htrim
      exact .block htrim ((itemValues_iff hkey).mpr rfl)
    · rename_i hne
      split
      · rename_i vs h
        obtain ⟨inner, htrim, rfl⟩ := (Scalar.readList?_eq_some_iff hstart).mp h
        rw [Text.trim_trimStart] at htrim
        exact .bracketed htrim
      · rename_i h
        rw [hread]
        refine .scalar hne fun inner htrim => ?_
        have hsome := (Scalar.readList?_eq_some_iff hstart).mpr
          ⟨inner, by rw [Text.trim_trimStart, htrim], rfl⟩
        simp [hsome] at h

theorem IsKeyLine.newline_notMem {line name text : List Char} (h : IsKeyLine line name text)
    (hline : '\n' ∉ line) : '\n' ∉ text := by
  intro hmem
  rw [h.eq] at hline
  exact hline (List.mem_append_right _ (List.mem_cons_of_mem _ hmem))

/-- The fields of sections hold for a name the value of the last section with it. -/
theorem get?_entries_iff {ss : List Section} {name : String} {v : Value} :
    (OrderedMap.ofList (ss.map Section.entry)).get? name = some v ↔
      ∃ before s after, ss = before ++ s :: after ∧ s.name = name.toList ∧ s.value = v ∧
        ∀ t ∈ after, t.name ≠ name.toList := by
  rw [OrderedMap.get?_ofList_eq_some_iff]
  constructor
  · rintro ⟨before, after, hss, hafter⟩
    obtain ⟨front, rest, rfl, -, hrest⟩ := List.map_eq_append_iff.mp hss
    obtain ⟨s, tail, rfl, hs, rfl⟩ := List.map_eq_cons_iff.mp hrest
    simp only [Section.entry, Prod.mk.injEq] at hs
    refine ⟨front, s, tail, rfl, by rw [← hs.1, String.toList_ofList], hs.2, fun t ht h => ?_⟩
    exact hafter t.entry (List.mem_map.mpr ⟨t, ht, rfl⟩) (by simp [Section.entry, h])
  · rintro ⟨before, s, after, rfl, hname, hvalue, hafter⟩
    refine ⟨before.map Section.entry, after.map Section.entry, ?_, fun e he h => ?_⟩
    · simp [Section.entry, hname, hvalue]
    · obtain ⟨t, ht, rfl⟩ := List.mem_map.mp he
      apply hafter t ht
      rw [← h, Section.entry, String.toList_ofList]

/-- Some lines, cut before the first key line among them. -/
theorem exists_cut_before_key (ls : List (List Char)) :
    ∃ between after, ls = between ++ after ∧ (∀ l ∈ between, ∀ n t, ¬ IsKeyLine l n t) ∧
      (after = [] ∨ ∃ l rest n t, after = l :: rest ∧ IsKeyLine l n t) := by
  induction ls with
  | nil => exact ⟨[], [], rfl, by simp, Or.inl rfl⟩
  | cons l ls ih =>
    by_cases h : ∃ n t, IsKeyLine l n t
    · obtain ⟨n, t, hkey⟩ := h
      exact ⟨[], l :: ls, rfl, by simp, Or.inr ⟨l, ls, n, t, rfl, hkey⟩⟩
    · obtain ⟨between, after, rfl, hbetween, hafter⟩ := ih
      refine ⟨l :: between, after, rfl, ?_, hafter⟩
      intro k hk n t hkey
      rcases List.mem_cons.mp hk with rfl | hk
      · exact h ⟨n, t, hkey⟩
      · exact hbetween k hk n t hkey

/-- The lines `between` a key line and the next one, and the lines from there on: the former make
the items of the section, the latter the sections behind it. -/
theorem sections_between {between after : List (List Char)}
    (hbetween : ∀ l ∈ between, ∀ n t, ¬ IsKeyLine l n t)
    (hafter : after = [] ∨ ∃ l ls n t, after = l :: ls ∧ IsKeyLine l n t) :
    sections ((between ++ after).map Line.ofText) =
      ((sections (between.map Line.ofText)).1, (sections (after.map Line.ofText)).2) := by
  have hstart : after.map Line.ofText = [] ∨
      ∃ n t ls, after.map Line.ofText = .key n t :: ls := by
    rcases hafter with rfl | ⟨l, ls, n, t, rfl, hkey⟩
    · exact Or.inl rfl
    · exact Or.inr ⟨n, Text.trimStart t, ls.map Line.ofText, by rw [List.map_cons, hkey.ofText]⟩
  rw [List.map_append, sections_append hstart, sections_of_no_key (key_notMem_map_ofText hbetween),
    List.nil_append]

theorem get?_fields_iff {body : List Char} {name : String} {v : Value} :
    (fields body).get? name = some v ↔ LastGives (Text.lines body) name v := by
  rw [fields, parse, get?_entries_iff]
  constructor
  · rintro ⟨before, s, after, hss, hname, hvalue, hafter⟩
    obtain ⟨front, tail, hlines, hitems, rfl⟩ := exists_key_of_sections hss
    obtain ⟨first, rest, hbody, -, hrest⟩ := List.map_eq_append_iff.mp hlines
    obtain ⟨line, behind, rfl, hline, rfl⟩ := List.map_eq_cons_iff.mp hrest
    obtain ⟨text, hkey, htext⟩ := ofText_eq_key_iff.mp hline
    obtain ⟨between, last, rfl, hbetween, hlast⟩ := exists_cut_before_key behind
    rw [sections_between hbetween hlast] at hitems hafter
    have hnewline : '\n' ∉ text := by
      apply hkey.newline_notMem
      apply Text.newline_notMem_of_mem_lines
      rw [hbody]
      simp
    rw [hname] at hkey
    refine ⟨first, line, text, between, last, hbody, hkey, hbetween, hlast, ?_, ?_⟩
    · intro l hl t hkey'
      have hmem : .key name.toList (Text.trimStart t) ∈ last.map Line.ofText :=
        List.mem_map.mpr ⟨l, hl, hkey'.ofText⟩
      obtain ⟨s', hs', hname'⟩ := exists_section_of_key hmem
      exact hafter s' hs' hname'
    · rw [gives_iff s.name hnewline hbetween, ← htext, ← hitems]
      exact hvalue
  · rintro ⟨before, line, text, between, after, hbody, hkey, hbetween, hafter, hlast, hgives⟩
    have hnewline : '\n' ∉ text := by
      apply hkey.newline_notMem
      apply Text.newline_notMem_of_mem_lines
      rw [hbody]
      simp
    refine ⟨(sections (before.map Line.ofText)).2, ⟨name.toList, Text.trimStart text,
      (sections (between.map Line.ofText)).1⟩, (sections (after.map Line.ofText)).2, ?_, rfl,
      (gives_iff name.toList hnewline hbetween).mp hgives, ?_⟩
    · rw [hbody, List.map_append, List.map_cons, hkey.ofText, sections_append_key, sections,
        sections_between hbetween hafter]
    · intro s hs hname
      obtain ⟨l, hl, hline⟩ := List.mem_map.mp (key_mem_of_section hs)
      obtain ⟨t, hkey', -⟩ := ofText_eq_key_iff.mp hline
      exact hlast l hl t (hname ▸ hkey')

theorem keys_fields {body : List Char} {names : List (List Char)}
    (h : KeyNames (Text.lines body) names) :
    (fields body).keys = (names.map String.ofList).eraseDups := by
  rw [fields, parse, OrderedMap.keys_ofList, ← keyNames_iff.mp h, List.map_map, List.map_map]
  rfl

/-- The fields of a body are the one map whose names are those of the key lines, each once, in the
order of their first key lines, and whose values are those that the last key lines give. -/
theorem fields_eq_iff {body : List Char} {m : OrderedMap Value} :
    fields body = m ↔
      (∃ names, KeyNames (Text.lines body) names ∧
        m.keys = (names.map String.ofList).eraseDups) ∧
      ∀ name v, m.get? name = some v ↔ LastGives (Text.lines body) name v := by
  constructor
  · rintro rfl
    have hnames : KeyNames (Text.lines body) _ := keyNames_iff.mpr rfl
    exact ⟨⟨_, hnames, keys_fields hnames⟩, fun name v => get?_fields_iff⟩
  · rintro ⟨⟨names, hnames, hkeys⟩, hget⟩
    have hsame : (fields body).keys = m.keys := by rw [keys_fields hnames, hkeys]
    refine OrderedMap.ext_get? hsame fun name hname => ?_
    obtain ⟨v, hv⟩ := OrderedMap.mem_keys_iff.mp hname
    rw [hv, (hget name v).mpr (get?_fields_iff.mp hv)]

example : (fields "a: 1\n- x\nb:\n  - y\na: [p, q]".toList).entries =
    [("a", .list [.text "p", .text "q"]), ("b", .list [.text "y"])] := by rfl

end NoteQuery.Body
