import NoteQuery.Proofs.OrderedMaps
import NoteQuery.Settings.Sources

/-!
# Tables over each other

A value inside nested tables is found at a path of names. When a table is put over another one, what
the upper one holds at a path counts, and where it holds nothing the lower one shows through, however
much else the upper one holds in the tables on the way.

* `Value.at?`, `Value.TablesAlong`: the value at a path, and paths that lead through tables.
* `Value.DistinctNames`: values in which no table names anything twice.
* `lookup_overlay`, `at?_overlay`: what is found in two tables over each other.
* `distinctNames_overlay`: names stay distinct.
-/

namespace NoteQuery

/-! ## Values at paths -/

namespace Value

variable {es : List (String × Value)} {name : String} {names path : List String} {v w : Value}

def IsTable (v : Value) : Prop := ∃ es, v = .table es

theorem not_isTable_text {s : String} : ¬ (text s).IsTable := by
  rintro ⟨_, h⟩
  cases h

theorem not_isTable_list {vs : List Value} : ¬ (list vs).IsTable := by
  rintro ⟨_, h⟩
  cases h

theorem not_isTable_bool {b : Bool} : ¬ (bool b).IsTable := by
  rintro ⟨_, h⟩
  cases h

/-- The value at the end of a path of names through tables. -/
def at? : List String → Value → Option Value
  | [], v => some v
  | name :: names, .table es => (es.lookup name).bind (at? names)
  | _ :: _, _ => none

/-- Nothing but tables stands on the way to the end of a path. -/
def TablesAlong (path : List String) (v : Value) : Prop :=
  ∀ front back w, path = front ++ back → back ≠ [] → v.at? front = some w → w.IsTable

/-- No table names anything twice. -/
def DistinctNames (v : Value) : Prop :=
  ∀ path es, v.at? path = some (.table es) → (es.map Prod.fst).Nodup

@[simp] theorem at?_nil (v : Value) : v.at? [] = some v := by
  rw [at?]

@[simp] theorem at?_cons_table :
    (table es).at? (name :: names) = (es.lookup name).bind (at? names) := by
  rw [at?]

theorem at?_singleton : (table es).at? [name] = es.lookup name := by
  rw [at?_cons_table]
  cases es.lookup name <;> rfl

theorem at?_append (front back : List String) (v : Value) :
    v.at? (front ++ back) = (v.at? front).bind (at? back) := by
  induction front generalizing v with
  | nil => simp
  | cons name front ih =>
    cases v with
    | table es =>
      rw [List.cons_append, at?_cons_table, at?_cons_table, Option.bind_assoc]
      exact congrArg _ (funext ih)
    | _ => rfl

theorem at?_cons_of_not_isTable (hv : ¬ v.IsTable) : v.at? (name :: names) = none := by
  cases v with
  | table es => exact absurd ⟨es, rfl⟩ hv
  | _ => rfl

/-- What has something inside is a table. -/
theorem at?_cons_eq_some (h : v.at? (name :: names) = some w) :
    ∃ es below, v = .table es ∧ es.lookup name = some below ∧ below.at? names = some w := by
  cases v with
  | table es =>
    obtain ⟨below, hlookup, hbelow⟩ := Option.bind_eq_some_iff.mp h
    exact ⟨es, below, rfl, hlookup, hbelow⟩
  | _ => cases h

theorem tablesAlong_nil : v.TablesAlong [] := by
  intro front back w hpath hback
  exact absurd (List.append_eq_nil_iff.mp hpath.symm).2 hback

theorem TablesAlong.isTable (h : v.TablesAlong (name :: names)) : v.IsTable :=
  h [] (name :: names) v rfl (List.cons_ne_nil _ _) (at?_nil v)

theorem TablesAlong.below (h : (table es).TablesAlong (name :: names))
    (hlookup : es.lookup name = some v) : v.TablesAlong names := by
  intro front back w hnames hback hfront
  refine h (name :: front) back w (congrArg (name :: ·) hnames) hback ?_
  rw [at?_cons_table, hlookup, Option.bind_some, hfront]

theorem TablesAlong.front {front back : List String} (h : v.TablesAlong (front ++ back)) :
    v.TablesAlong front := by
  intro names rest w hfront hrest hw
  refine h names (rest ++ back) w ?_ (List.append_ne_nil_of_left_ne_nil hrest back) hw
  rw [hfront, List.append_assoc]

theorem tablesAlong_table (h : ∀ v, es.lookup name = some v → v.TablesAlong names) :
    (table es).TablesAlong (name :: names) := by
  intro front back w hpath hback hfront
  cases front with
  | nil =>
    rw [at?_nil] at hfront
    exact ⟨es, (Option.some.inj hfront).symm⟩
  | cons first front =>
    obtain ⟨rfl, rfl⟩ := List.cons.inj hpath
    obtain ⟨_, below, htable, hlookup, hbelow⟩ := at?_cons_eq_some hfront
    cases htable
    exact h below hlookup front back w rfl hback hbelow

theorem tablesAlong_singleton : (table es).TablesAlong [name] :=
  tablesAlong_table fun _ _ => tablesAlong_nil

/-! ## Distinct names -/

theorem distinctNames_of_not_isTable (hv : ¬ v.IsTable) : v.DistinctNames := by
  intro path es h
  cases path with
  | nil =>
    rw [at?_nil] at h
    exact absurd ⟨es, Option.some.inj h⟩ hv
  | cons name names =>
    rw [at?_cons_of_not_isTable hv] at h
    cases h

theorem DistinctNames.nodup (h : (table es).DistinctNames) : (es.map Prod.fst).Nodup :=
  h [] es (at?_nil _)

theorem DistinctNames.lookup (h : (table es).DistinctNames) (hlookup : es.lookup name = some v) :
    v.DistinctNames := by
  intro path below hpath
  refine h (name :: path) below ?_
  rw [at?_cons_table, hlookup, Option.bind_some, hpath]

theorem distinctNames_table (hnodup : (es.map Prod.fst).Nodup)
    (hvalues : ∀ name v, es.lookup name = some v → v.DistinctNames) : (table es).DistinctNames := by
  intro path below h
  cases path with
  | nil =>
    rw [at?_nil, Option.some.injEq, table.injEq] at h
    exact h ▸ hnodup
  | cons name names =>
    obtain ⟨_, v, htable, hlookup, hbelow⟩ := at?_cons_eq_some h
    cases htable
    exact hvalues name v hlookup names below hbelow

theorem distinctNames_nil : (table []).DistinctNames :=
  distinctNames_table List.nodup_nil fun _ _ h => nomatch h

theorem distinctNames_table_iff : (table es).DistinctNames ↔
    (es.map Prod.fst).Nodup ∧ ∀ e ∈ es, e.2.DistinctNames := by
  constructor
  · intro h
    refine ⟨h.nodup, fun e he => ?_⟩
    exact h.lookup ((OrderedMap.get?_eq_some_iff (m := ⟨es, h.nodup⟩)).mpr he)
  · rintro ⟨hnodup, hvalues⟩
    refine distinctNames_table hnodup fun name v hlookup => ?_
    exact hvalues (name, v) ((OrderedMap.get?_eq_some_iff (m := ⟨es, hnodup⟩)).mp hlookup)

end Value

open Value

/-! ## Putting tables over each other -/

variable {base upper : List (String × Value)} {path : List String} {v w : Value}

@[simp] theorem overlayValue_none (v : Value) : overlayValue none v = v := by
  cases v <;> simp [overlayValue]

theorem overlayValue_table : overlayValue (some (.table base)) (.table upper) =
    .table (overlay base upper) := by
  rw [overlayValue]

/-- A value replaces the one below it unless both are tables. -/
theorem overlayValue_eq_self_or (below : Option Value) (v : Value) :
    overlayValue below v = v ∨ ∃ base upper, below = some (.table base) ∧ v = .table upper := by
  cases v with
  | table upper =>
    cases below with
    | none => exact Or.inl (overlayValue_none _)
    | some w =>
      cases w with
      | table base => exact Or.inr ⟨base, upper, rfl, rfl⟩
      | _ => simp [overlayValue]
  | _ => simp [overlayValue]

theorem isTable_overlayValue {below : Option Value} :
    (overlayValue below v).IsTable ↔ v.IsTable := by
  rcases overlayValue_eq_self_or below v with heq | ⟨base, upper, rfl, rfl⟩
  · rw [heq]
  · rw [overlayValue_table]
    exact iff_of_true ⟨_, rfl⟩ ⟨_, rfl⟩

/-- What is found where two tables over each other hold some values, if they hold any. -/
def overlaid (below above : Option Value) : Option Value :=
  match above with
  | some v => some (overlayValue below v)
  | none => below

@[simp] theorem overlaid_some {below : Option Value} : overlaid below (some v) =
    some (overlayValue below v) := rfl

@[simp] theorem overlaid_none_right {below : Option Value} : overlaid below none = below := rfl

@[simp] theorem overlaid_none_left {above : Option Value} : overlaid none above = above := by
  cases above with
  | none => rfl
  | some v => rw [overlaid_some, overlayValue_none]

theorem overlaid_eq_none_iff {below above : Option Value} :
    overlaid below above = none ↔ above.or below = none := by
  cases above with
  | none => rfl
  | some v => exact iff_of_false nofun nofun

/-- Of two values that are not both tables the upper one is found. -/
theorem overlaid_eq_some_iff {below above : Option Value} (hv : ¬ v.IsTable) :
    overlaid below above = some v ↔ above.or below = some v := by
  cases above with
  | none => rfl
  | some w =>
    rw [overlaid_some, Option.some_or, Option.some.injEq, Option.some.injEq]
    rcases overlayValue_eq_self_or below w with heq | ⟨base, upper, rfl, rfl⟩
    · rw [heq]
    · refine iff_of_false ?_ ?_
      · intro h
        exact hv (h ▸ overlayValue_table ▸ ⟨_, rfl⟩)
      · intro h
        exact hv (h ▸ ⟨upper, rfl⟩)

theorem nodup_overlay (hbase : (base.map Prod.fst).Nodup) :
    ((overlay base upper).map Prod.fst).Nodup := by
  induction upper generalizing base with
  | nil =>
    rw [overlay]
    exact hbase
  | cons e rest ih =>
    rw [overlay]
    exact ih (OrderedMap.insert ⟨base, hbase⟩ _ _).nodup

theorem lookup_overlay (hupper : (upper.map Prod.fst).Nodup) (name : String) :
    (overlay base upper).lookup name = overlaid (base.lookup name) (upper.lookup name) := by
  induction upper generalizing base with
  | nil => rw [overlay, List.lookup_nil, overlaid_none_right]
  | cons e rest ih =>
    obtain ⟨first, v⟩ := e
    rw [List.map_cons, List.nodup_cons] at hupper
    obtain ⟨hfirst, hrest⟩ := hupper
    rw [overlay, ih hrest, lookup_insertEntry, List.lookup_cons]
    by_cases hname : name = first
    · have hlookup : rest.lookup name = none := by
        rw [List.lookup_eq_none_iff]
        intro e he
        rw [hname, bne_iff_ne]
        exact fun h => hfirst (List.mem_map.mpr ⟨e, he, h.symm⟩)
      rw [if_pos hname, hlookup, hname, beq_self_eq_true]
      rfl
    · rw [if_neg hname, beq_eq_false_iff_ne.mpr hname]

/-- What is found at a path. -/
theorem at?_overlayValue {below : Option Value} (hdistinct : v.DistinctNames)
    (htables : v.TablesAlong path) :
    (overlayValue below v).at? path = overlaid (below.bind (at? path)) (v.at? path) := by
  induction path generalizing below v with
  | nil => cases below <;> simp
  | cons name names ih =>
    obtain ⟨upper, rfl⟩ := htables.isTable
    by_cases hbelow : ∃ base, below = some (.table base)
    · obtain ⟨base, rfl⟩ := hbelow
      rw [overlayValue_table, at?_cons_table, lookup_overlay hdistinct.nodup, at?_cons_table,
        Option.bind_some, at?_cons_table]
      cases hlookup : upper.lookup name with
      | none => rfl
      | some v => exact ih (hdistinct.lookup hlookup) (htables.below hlookup)
    · have hself : overlayValue below (.table upper) = .table upper := by
        rcases overlayValue_eq_self_or below (.table upper) with heq | ⟨base, _, rfl, -⟩
        · exact heq
        · exact absurd ⟨base, rfl⟩ hbelow
      have hnone : below.bind (at? (name :: names)) = none := by
        rw [Option.bind_eq_none_iff]
        rintro w rfl
        apply at?_cons_of_not_isTable
        rintro ⟨base, rfl⟩
        exact hbelow ⟨base, rfl⟩
      rw [hself, hnone, overlaid_none_left]

theorem at?_overlay (hdistinct : (table upper).DistinctNames)
    (htables : (table upper).TablesAlong path) :
    (table (overlay base upper)).at? path =
      overlaid ((table base).at? path) ((table upper).at? path) := by
  rw [← overlayValue_table]
  exact at?_overlayValue hdistinct htables

theorem tablesAlong_overlay (hdistinct : (table upper).DistinctNames)
    (hbase : (table base).TablesAlong path) (hupper : (table upper).TablesAlong path) :
    (table (overlay base upper)).TablesAlong path := by
  intro front back w hpath hback hfront
  subst hpath
  rw [at?_overlay hdistinct hupper.front] at hfront
  cases habove : (table upper).at? front with
  | none =>
    rw [habove, overlaid_none_right] at hfront
    exact hbase front back w rfl hback hfront
  | some v =>
    rw [habove, overlaid_some, Option.some.injEq] at hfront
    rw [← hfront, isTable_overlayValue]
    exact hupper front back v rfl hback habove

theorem distinctNames_overlayValue {below : Option Value}
    (hbelow : ∀ w, below = some w → w.DistinctNames) (hv : v.DistinctNames) :
    (overlayValue below v).DistinctNames := by
  intro path es hpath
  induction path generalizing below v with
  | nil =>
    rcases overlayValue_eq_self_or below v with heq | ⟨base, upper, rfl, rfl⟩
    · exact hv [] es (heq ▸ hpath)
    · rw [overlayValue_table, at?_nil, Option.some.injEq, table.injEq] at hpath
      exact hpath ▸ nodup_overlay (hbelow _ rfl).nodup
  | cons name names ih =>
    rcases overlayValue_eq_self_or below v with heq | ⟨base, upper, rfl, rfl⟩
    · exact hv (name :: names) es (heq ▸ hpath)
    · have hbase := hbelow _ rfl
      rw [overlayValue_table, at?_cons_table, lookup_overlay hv.nodup] at hpath
      cases hlookup : upper.lookup name with
      | none =>
        rw [hlookup, overlaid_none_right, ← at?_cons_table] at hpath
        exact hbase (name :: names) es hpath
      | some v =>
        rw [hlookup, overlaid_some, Option.bind_some] at hpath
        exact ih (fun w hw => hbase.lookup hw) (hv.lookup hlookup) hpath

theorem distinctNames_overlay (hbase : (table base).DistinctNames)
    (hupper : (table upper).DistinctNames) : (table (overlay base upper)).DistinctNames := by
  rw [← overlayValue_table]
  exact distinctNames_overlayValue (fun w hw => Option.some.inj hw ▸ hbase) hupper

end NoteQuery
