import NoteQuery.Proofs.Settings.Overlays

/-!
# The table of the environment

Variables may name a setting twice, for one in lower and in upper case, in JSON with a name given
twice, or in JSON and in a variable of its own. In the table that is made of them every name stands
once, in sections and in everything below them.

* `Json.distinctNames_of_parse?`: values that are read from JSON.
* `Environment.distinctNames_section?`: a section with the variables of its settings.
* `Environment.distinctNames_entries`: the table of the environment.
-/

namespace NoteQuery

open Value

variable {es : List (String × Value)} {name : String} {v : Value}

theorem distinctNames_entries_ofList (h : ∀ e ∈ es, e.2.DistinctNames) :
    (table (OrderedMap.ofList es).entries).DistinctNames := by
  refine distinctNames_table_iff.mpr ⟨(OrderedMap.ofList es).nodup, ?_⟩
  rintro ⟨name, v⟩ hmem
  obtain ⟨before, after, hes, -⟩ := OrderedMap.mem_lastEntries_iff.mp
    (OrderedMap.mem_entries_ofList.mp hmem)
  exact h (name, v) (hes ▸ List.mem_append_right _ List.mem_cons_self)

theorem distinctNames_insertEntry (hes : (table es).DistinctNames) (hv : v.DistinctNames) :
    (table (insertEntry name v es)).DistinctNames := by
  refine distinctNames_table (OrderedMap.insert ⟨es, hes.nodup⟩ name v).nodup fun other w hw => ?_
  rw [lookup_insertEntry] at hw
  split at hw
  · exact Option.some.inj hw ▸ hv
  · exact hes.lookup hw

/-! ## JSON -/

namespace Json

variable {cs rest : List Char}

theorem not_isTable_of_number? (h : number? cs = some (v, rest)) : ¬ v.IsTable := by
  unfold number? at h
  grind [IsTable]

theorem not_isTable_of_mem_wordValues {w : String × Value} (h : w ∈ wordValues) : ¬ w.2.IsTable := by
  rintro ⟨es, hes⟩
  simp only [wordValues, List.mem_cons, List.not_mem_nil, or_false] at h
  rcases h with rfl | rfl | rfl | rfl | rfl | rfl <;> cases hes

/-- What is read inside an object is read with less fuel. -/
theorem distinctNames_of_read (fuel : Nat) :
    (∀ cs v rest, value fuel cs = some (v, rest) → v.DistinctNames) ∧
      ∀ cs es rest, entries fuel cs = some (es, rest) → ∀ e ∈ es, e.2.DistinctNames := by
  induction fuel with
  | zero =>
    constructor
    · intro cs v rest h
      rw [value] at h
      cases h
    · intro cs es rest h
      rw [entries] at h
      cases h
  | succ fuel ih =>
    obtain ⟨ihValue, ihEntries⟩ := ih
    constructor
    · intro cs v rest h
      unfold value at h
      split at h
      · -- a string
        obtain ⟨⟨text, after⟩, -, heq⟩ := Option.map_eq_some_iff.mp h
        obtain ⟨rfl, -⟩ := Prod.mk.inj heq
        exact distinctNames_of_not_isTable not_isTable_text
      · -- a list
        split at h
        · cases h
          exact distinctNames_of_not_isTable not_isTable_list
        · obtain ⟨⟨vs, after⟩, -, heq⟩ := Option.map_eq_some_iff.mp h
          obtain ⟨rfl, -⟩ := Prod.mk.inj heq
          exact distinctNames_of_not_isTable not_isTable_list
      · -- an object
        split at h
        · cases h
          exact distinctNames_nil
        · obtain ⟨⟨es, after⟩, hentries, heq⟩ := Option.map_eq_some_iff.mp h
          obtain ⟨rfl, -⟩ := Prod.mk.inj heq
          exact distinctNames_entries_ofList (ihEntries _ _ _ hentries)
      · -- a word or a number
        split at h
        · rename_i w hfind
          obtain ⟨rfl, -⟩ := Prod.mk.inj (Option.some.inj h)
          exact distinctNames_of_not_isTable
            (not_isTable_of_mem_wordValues (List.mem_of_find?_eq_some hfind))
        · exact distinctNames_of_not_isTable (not_isTable_of_number? h)
    · intro cs es rest h
      unfold entries at h
      split at h
      · split at h
        · cases h
        · split at h
          · split at h
            · cases h
            · rename_i v rest hvalue
              have hv := ihValue _ _ _ hvalue
              split at h
              · cases h
                exact List.forall_mem_singleton.mpr hv
              · obtain ⟨⟨es, after⟩, hentries, heq⟩ := Option.map_eq_some_iff.mp h
                obtain ⟨rfl, -⟩ := Prod.mk.inj heq
                exact List.forall_mem_cons.mpr ⟨hv, ihEntries _ _ _ hentries⟩
              · cases h
          · cases h
      · cases h

theorem distinctNames_of_parse? (h : parse? cs = some v) : v.DistinctNames := by
  unfold parse? at h
  split at h
  · rename_i w rest hvalue
    split at h
    · exact Option.some.inj h ▸ (distinctNames_of_read _).1 _ _ _ hvalue
    · cases h
  · cases h

end Json

namespace Environment

variable {bindings : List (String × String)} {group text : String} {shape : Shape}
  {path : List String}

theorem distinctNames_text : (Value.text text).DistinctNames :=
  distinctNames_of_not_isTable not_isTable_text

theorem distinctNames_of_read? {isViews : Bool} {shape : Option Shape}
    (h : read? isViews shape text = some v) : v.DistinctNames := by
  unfold read? at h
  split at h
  · exact Option.some.inj h ▸ distinctNames_text
  · split at h
    · exact Option.some.inj h ▸ distinctNames_text
    · split at h
      · rename_i w hparse
        exact Option.some.inj h ▸ Json.distinctNames_of_parse? hparse
      · split at h
        · exact Option.some.inj h ▸ distinctNames_text
        · cases h
    · split at h
      · rw [← Option.some.inj h]
        cases hparse : Json.parse? text.toList with
        | none => exact distinctNames_text
        | some w => exact Json.distinctNames_of_parse? hparse
      · exact Option.some.inj h ▸ distinctNames_text

theorem distinctNames_setAt (hes : (table es).DistinctNames) (hv : v.DistinctNames) :
    (table (setAt v path es)).DistinctNames := by
  induction path, es using setAt.induct with
  | case1 es =>
    rw [setAt]
    exact hes
  | case2 es name =>
    rw [setAt]
    exact distinctNames_insertEntry hes hv
  | case3 name names es hnames inner hinner ih =>
    rw [setAt, hinner]
    · refine distinctNames_insertEntry hes (ih ?_)
      cases hlookup : es.lookup name with
      | none =>
        rw [hlookup] at hinner
        cases hinner
        exact distinctNames_nil
      | some w =>
        rw [hlookup] at hinner
        cases hinner
        exact hes.lookup hlookup
    · exact hnames
  | case4 name names es hnames hother =>
    cases names with
    | nil => exact absurd rfl hnames
    | cons next names =>
      unfold setAt
      split
      · rename_i inner hinner
        exact absurd hinner (hother inner)
      · exact hes

theorem distinctNames_nested?_go {isViews : Bool} {start : List Char}
    {added : List (String × Value)} (hes : (table es).DistinctNames)
    (h : nested?.go isViews shape start es bindings = some added) : (table added).DistinctNames := by
  induction bindings generalizing es with
  | nil =>
    rw [nested?.go] at h
    exact Option.some.inj h ▸ hes
  | cons binding rest ih =>
    obtain ⟨name, text⟩ := binding
    rw [nested?.go] at h
    split at h
    · dsimp only at h
      split at h
      · rename_i v hread
        exact ih (distinctNames_setAt hes (distinctNames_of_read? hread)) h
      · cases h
    · exact ih hes h

theorem distinctNames_nested? {isViews : Bool} (h : nested? isViews group shape bindings = some es) :
    (table es).DistinctNames :=
  distinctNames_nested?_go distinctNames_nil h

/-! ## Sections -/

theorem distinctNames_respell {names : List String} (h : (table es).DistinctNames) :
    (table (respell names es)).DistinctNames := by
  unfold respell
  refine distinctNames_entries_ofList ?_
  rw [List.forall_mem_map]
  exact (distinctNames_table_iff.mp h).2

theorem distinctNames_respellQuery (h : (table es).DistinctNames) :
    (table (respellQuery es)).DistinctNames := by
  obtain ⟨hnodup, hvalues⟩ := distinctNames_table_iff.mp
    (distinctNames_respell h : (table (respell ["fields", "sort"] es)).DistinctNames)
  unfold respellQuery
  refine distinctNames_table_iff.mpr ⟨?_, ?_⟩
  · rw [List.map_map]
    convert hnodup using 2
    funext ⟨name, v⟩
    cases v <;> rfl
  · rw [List.forall_mem_map]
    rintro ⟨name, v⟩ hmem
    have hv : v.DistinctNames := hvalues _ hmem
    dsimp only
    split
    · split
      · exact distinctNames_respell hv
      · exact hv
    · exact hv

theorem distinctNames_respellSection (h : v.DistinctNames) : (respellSection group v).DistinctNames := by
  unfold respellSection
  split
  · split
    · exact distinctNames_respell h
    · split
      · exact distinctNames_respellQuery h
      · exact h
  · exact h

theorem distinctNames_section? (h : section? bindings group shape = some (some v)) :
    v.DistinctNames := by
  unfold section? at h
  dsimp only at h
  split at h
  · split at h
    · cases h
    · cases h
    · rename_i more hmore
      cases h
      exact distinctNames_respellSection (distinctNames_nested? hmore)
  · rename_i text htext
    split at h
    · cases h
    · rename_i own hown
      split at h
      · cases h
      · rename_i more hmore
        cases h
        exact distinctNames_respellSection
          (distinctNames_overlay (Json.distinctNames_of_parse? hown) (distinctNames_nested? hmore))
    · cases h
    · rename_i w _ _ hparse
      cases h
      exact Json.distinctNames_of_parse? hparse

theorem sectionEntries_spec {sections : List (String × Shape)}
    (h : sectionEntries bindings sections = .ok es) :
    (es.map Prod.fst).Sublist (sections.map Prod.fst) ∧ ∀ e ∈ es, e.2.DistinctNames := by
  induction sections generalizing es with
  | nil =>
    rw [sectionEntries] at h
    cases h
    exact ⟨List.Sublist.refl _, nofun⟩
  | cons first rest ih =>
    obtain ⟨name, shape⟩ := first
    rw [sectionEntries] at h
    split at h
    · cases h
    · cases h
    · rename_i es' hsection hrest
      cases h
      obtain ⟨hnames, hvalues⟩ := ih hrest
      exact ⟨hnames.cons _, hvalues⟩
    · rename_i v es' hsection hrest
      cases h
      obtain ⟨hnames, hvalues⟩ := ih hrest
      exact ⟨hnames.cons_cons _,
        List.forall_mem_cons.mpr ⟨distinctNames_section? hsection, hvalues⟩⟩

theorem map_fst_leaves_sublist (bindings : List (String × String)) (names : List String) :
    ((names.filterMap fun name => (bindings.lookup (marker ++ name)).map fun text =>
      (name, Value.text text)).map Prod.fst).Sublist names := by
  induction names with
  | nil => exact List.Sublist.refl _
  | cons name names ih =>
    rw [List.filterMap_cons]
    cases bindings.lookup (marker ++ name) with
    | none => exact ih.cons _
    | some text => exact ih.cons_cons _

/-- In the table of the environment every name stands once. -/
theorem distinctNames_entries (h : entries bindings = .ok es) : (table es).DistinctNames := by
  unfold entries at h
  dsimp only at h
  cases hsections : sectionEntries (lowered bindings) sections with
  | error name =>
    rw [hsections] at h
    cases h
  | ok inSections =>
    rw [hsections] at h
    obtain rfl := Except.ok.inj h
    obtain ⟨hnames, hvalues⟩ := sectionEntries_spec hsections
    have hall : (leaves ++ sections.map Prod.fst).Nodup := by decide
    refine distinctNames_table_iff.mpr ⟨?_, ?_⟩
    · refine hall.sublist ?_
      rw [List.map_append]
      exact (map_fst_leaves_sublist _ _).append hnames
    · intro e he
      rcases List.mem_append.mp he with hleaf | hsection
      · obtain ⟨name, -, hname⟩ := List.mem_filterMap.mp hleaf
        obtain ⟨text, -, rfl⟩ := Option.map_eq_some_iff.mp hname
        exact distinctNames_text
      · exact hvalues e hsection

end Environment

end NoteQuery
