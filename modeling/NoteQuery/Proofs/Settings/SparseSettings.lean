import NoteQuery.Proofs.Settings.LayeredSources

/-!
# Sparse configurations

A configuration that sets some of the single settings (`Leaf`) to values that can be read, each in the
file, in the environment or in both, is accepted. What it sets has the value that counts, and what it
leaves open has its default, with one exception: the default sort order stands for the whole table
`query.sort`. A configuration with such a table that leaves the field or the order in it open sorts by
no field or in ascending order, whatever the default is.

* `Check.option_eq_ok_iff`: an option and what stands for it.
* `ScanOptions.stands_iff`, `Sorting.stands_iff`, `QueryDefaults.stands_iff`: the sections, setting by
  setting.
* `Settings.not_load_keeps_every_default`, `Settings.load_of_leaves`: the settings of a call.
-/

namespace NoteQuery

open Value

/-! ## Options -/

section

variable {α : Type} {o : Option Value} {check : Value → Checked α} {default c : α}

/-- What stands for an option: what its value is checked to be, or its default. -/
def Stands (o : Option Value) (check : Value → Checked α) (default c : α) : Prop :=
  match o with
  | some v => check v = .ok c
  | none => c = default

theorem exists_stands (h : ∀ v, o = some v → ∃ c, check v = .ok c) (default : α) :
    ∃ c, Stands o check default c := by
  cases o with
  | none => exact ⟨default, rfl⟩
  | some v => exact h v rfl

theorem Check.option_eq_ok_iff {es : List (String × Value)} {name : String} :
    Check.option es name default check = .ok c ↔ Stands (es.lookup name) check default c := by
  rw [Check.option, Value.lookup?]
  cases es.lookup name with
  | none => exact Checked.ok.injEq default c ▸ eq_comm
  | some v => exact Checked.within_eq_ok_iff

end

/-! ## Sections -/

/-- A table with two options. -/
theorem section_eq_ok_iff {α β γ : Type} {es : List (String × Value)} {first second : String}
    {checkFirst : Value → Checked α} {checkSecond : Value → Checked β} {a : α} {b : β} {c : γ}
    {make : α → β → γ} (left : γ → α) (right : γ → β) (hleft : ∀ a b, left (make a b) = a)
    (hright : ∀ a b, right (make a b) = b) (hmake : ∀ c, make (left c) (right c) = c) :
    make <$> Check.option es first a checkFirst <*> Check.option es second b checkSecond =
        Checked.ok c ↔
      Stands ((table es).at? [first]) checkFirst a (left c) ∧
        Stands ((table es).at? [second]) checkSecond b (right c) := by
  rw [at?_singleton, at?_singleton, ← Check.option_eq_ok_iff, ← Check.option_eq_ok_iff,
    Checked.seq_eq_ok_iff]
  constructor
  · rintro ⟨_, v, h, hsecond, rfl⟩
    obtain ⟨u, hfirst, rfl⟩ := Checked.map_eq_ok_iff.mp h
    rw [hleft, hright]
    exact ⟨hfirst, hsecond⟩
  · rintro ⟨hfirst, hsecond⟩
    exact ⟨_, _, Checked.map_eq_ok_iff.mpr ⟨_, hfirst, rfl⟩, hsecond, hmake c⟩

section

variable {o : Option Value}

theorem ScanOptions.stands_iff (ho : ∀ v, o = some v → v.IsTable) {s : ScanOptions} :
    Stands o ScanOptions.ofValue {} s ↔
      Stands (o.bind (at? ["recursive"])) Check.bool true s.recursive ∧
        Stands (o.bind (at? ["workers"])) (Check.integerFrom 1) 1 s.workers := by
  cases o with
  | none =>
    cases s
    simp [Stands]
  | some v =>
    obtain ⟨es, rfl⟩ := ho v rfl
    exact section_eq_ok_iff ScanOptions.recursive ScanOptions.workers (fun _ _ => rfl)
      (fun _ _ => rfl) (fun _ => rfl)

/-- Without a table the default stands; in a table, what is left open is none or ascending. -/
theorem Sorting.stands_iff (ho : ∀ v, o = some v → v.IsTable) {default s : Sorting} :
    Stands o Sorting.ofValue default s ↔
      Stands (o.bind (at? ["field"])) (Check.optional Check.text)
          (if o.isSome then {} else default).field s.field ∧
        Stands (o.bind (at? ["order"])) (Check.choice SortOrder.choices)
          (if o.isSome then {} else default).order s.order := by
  cases o with
  | none =>
    cases s
    cases default
    simp [Stands]
  | some v =>
    obtain ⟨es, rfl⟩ := ho v rfl
    exact section_eq_ok_iff Sorting.field Sorting.order (fun _ _ => rfl) (fun _ _ => rfl)
      (fun _ => rfl)

theorem QueryDefaults.stands_iff (ho : ∀ v, o = some v → v.IsTable) {q : QueryDefaults} :
    Stands o QueryDefaults.ofValue {} q ↔
      Stands (o.bind (at? ["fields"])) (Check.list Check.text) defaultFields q.fields ∧
        Stands (o.bind (at? ["sort"])) Sorting.ofValue ⟨some "start", .descending⟩ q.sort := by
  cases o with
  | none =>
    cases q
    simp [Stands]
  | some v =>
    obtain ⟨es, rfl⟩ := ho v rfl
    exact section_eq_ok_iff QueryDefaults.fields QueryDefaults.sort (fun _ _ => rfl)
      (fun _ _ => rfl) (fun _ => rfl)

end

namespace Settings

variable {h : Host} {named : Option String} {start located : Option Path}
  {entries file environment : List (String × Value)} {s : Settings}

theorem ofEntries_of_accepts (h : Accepts entries s) : ofEntries entries = .ok s := by
  rw [ofEntries, h.home, h.configPath, h.jsonOutput, h.verbose, h.logJson, h.display, h.scan,
    h.query, h.views, h.names]
  rfl

theorem checked_of_accepts {home : Option Path} (haccepts : Accepts entries s)
    (hhome : expandedHome h entries = .ok home) :
    checked h located entries = .ok { s with home := home } := by
  unfold checked
  rw [hhome, ofEntries_of_accepts haccepts]

/-! ## Single settings -/

/-- The single settings, in sections or in none. -/
inductive Leaf where
  | home | display | jsonOutput | verbose | logJson
  | recursive | workers
  | fields | sortField | sortOrder
  deriving DecidableEq

namespace Leaf

def path : Leaf → List String
  | home => ["home"]
  | display => ["display"]
  | jsonOutput => ["json_output"]
  | verbose => ["verbose"]
  | logJson => ["log_json"]
  | recursive => ["scan", "recursive"]
  | workers => ["scan", "workers"]
  | fields => ["query", "fields"]
  | sortField => ["query", "sort", "field"]
  | sortOrder => ["query", "sort", "order"]

/-- What a setting is. -/
def Content : Leaf → Type
  | home => Option Path
  | display => DisplayMode
  | jsonOutput => Bool
  | verbose => Bool
  | logJson => Bool
  | recursive => Bool
  | workers => Int
  | fields => List String
  | sortField => Option String
  | sortOrder => SortOrder

def get (s : Settings) : (leaf : Leaf) → leaf.Content
  | home => s.home
  | display => s.display
  | jsonOutput => s.jsonOutput
  | verbose => s.verbose
  | logJson => s.logJson
  | recursive => s.scan.recursive
  | workers => s.scan.workers
  | fields => s.query.fields
  | sortField => s.query.sort.field
  | sortOrder => s.query.sort.order

/-- How a setting is checked. -/
def check : (leaf : Leaf) → Value → Checked leaf.Content
  | home => Check.optional checkPath
  | display => Check.choice DisplayMode.choices
  | jsonOutput => Check.bool
  | verbose => Check.bool
  | logJson => Check.bool
  | recursive => Check.bool
  | workers => Check.integerFrom 1
  | fields => Check.list Check.text
  | sortField => Check.optional Check.text
  | sortOrder => Check.choice SortOrder.choices

/-- What the value of a setting is read as: what its check gives, and the home expanded. -/
def Reads (h : Host) : (leaf : Leaf) → Value → leaf.Content → Prop
  | home, v, c => (∃ p, home.check v = .ok p) ∧ expandedHome h [("home", v)] = .ok c
  | leaf, v, c => leaf.check v = .ok c

theorem exists_check_of_reads {h : Host} {leaf : Leaf} {v : Value} {c : leaf.Content}
    (hreads : leaf.Reads h v c) : ∃ u, leaf.check v = .ok u := by
  cases leaf with
  | home => exact hreads.1
  | _ => exact ⟨c, hreads⟩

/-- A setting is what its value is read as; without a value it is as in some other settings. -/
def IsSetBy (h : Host) (leaf : Leaf) (o : Option Value) (s others : Settings) : Prop :=
  match o with
  | some v => leaf.Reads h v (leaf.get s)
  | none => leaf.get s = leaf.get others

theorem not_isTable_of_check {leaf : Leaf} {v : Value} {c : leaf.Content}
    (hcheck : leaf.check v = .ok c) : ¬ v.IsTable := by
  rintro ⟨es, rfl⟩
  cases leaf <;> cases hcheck

/-- No setting is a section with another one in it. -/
theorem eq_of_path_isPrefix {leaf other : Leaf} (h : other.path <+: leaf.path) : other = leaf := by
  rw [← List.isPrefixOf_iff_prefix] at h
  revert h
  cases other <;> cases leaf <;> first | exact fun _ => rfl | decide

end Leaf

/-- Nothing is set but single settings, and the sections that these are in. -/
def OnlyLeaves (es : List (String × Value)) : Prop :=
  ∀ path v, (table es).at? path = some v →
    ∃ leaf : Leaf, path <+: leaf.path ∧ (path ≠ leaf.path → v.IsTable)

/-- The value of a setting that counts. -/
def given (file environment : List (String × Value)) (leaf : Leaf) : Option Value :=
  ((table environment).at? leaf.path).or ((table file).at? leaf.path)

/-- The entries that a call without flags checks. -/
def unflagged (located : Option Path) (file environment : List (String × Value)) :
    List (String × Value) :=
  sourceEntries file environment (flagEntries located [])

/-- A call without flags reads tables that set single settings to values that can be read. -/
structure SetsLeaves (h : Host) (named : Option String) (start located : Option Path)
    (file environment : List (String × Value)) : Prop where
  locateFile_eq : locateFile h named start = .ok located
  fileEntries_eq : fileEntries h located = .ok file
  entries_eq : Environment.entries h.environment = .ok environment
  inFile : OnlyLeaves file
  inEnvironment : OnlyLeaves environment
  readable : ∀ leaf v, given file environment leaf = some v → ∃ c, leaf.Reads h v c

section

variable {leaf : Leaf} {path back : List String} {v : Value}

theorem OnlyLeaves.isTable {es : List (String × Value)} (honly : OnlyLeaves es)
    (hpath : path ++ back = leaf.path) (hback : back ≠ []) (hat : (table es).at? path = some v) :
    v.IsTable := by
  obtain ⟨other, -, htable⟩ := honly path v hat
  refine htable ?_
  rintro rfl
  have hother : other = leaf := Leaf.eq_of_path_isPrefix ⟨back, hpath⟩
  rw [hother, List.append_right_eq_self] at hpath
  exact hback hpath

theorem OnlyLeaves.tablesAlong {es : List (String × Value)} (honly : OnlyLeaves es)
    (hpath : path ++ back = leaf.path) : (table es).TablesAlong path := by
  rintro front rest v rfl hrest hat
  rw [List.append_assoc] at hpath
  exact honly.isTable hpath (List.append_ne_nil_of_left_ne_nil hrest back) hat

theorem OnlyLeaves.head_eq {es : List (String × Value)} {name : String} (honly : OnlyLeaves es)
    (hat : (table es).at? [name] = some v) : ∃ (leaf : Leaf) (names : List String),
      leaf.path = name :: names := by
  obtain ⟨leaf, ⟨names, hnames⟩, -⟩ := honly [name] v hat
  exact ⟨leaf, names, hnames.symm⟩

end

namespace SetsLeaves

variable {leaf : Leaf} {name : String} {names path back : List String} {v : Value}

/-- Without flags the entries that are checked are those of the file and the environment, but for the
file that was located. -/
theorem at?_cons (hleaves : SetsLeaves h named start located file environment)
    (hname : name ≠ "config_path") (htables : (table environment).TablesAlong (name :: names)) :
    (table (unflagged located file environment)).at? (name :: names) =
      overlaid ((table file).at? (name :: names)) ((table environment).at? (name :: names)) := by
  have hdistinct : (table (flagEntries located [])).DistinctNames :=
    distinctNames_flagEntries (p := {})
  have hlookup : (flagEntries located []).lookup name = none := by
    rw [flagEntries_eq, List.lookup_cons, beq_eq_false_iff_ne.mpr hname]
    rfl
  have hflags : (table (flagEntries located [])).TablesAlong (name :: names) := by
    refine tablesAlong_table fun v hv => ?_
    rw [hlookup] at hv
    cases hv
  have hnone : (table (flagEntries located [])).at? (name :: names) = none := by
    rw [at?_cons_table, hlookup, Option.bind_none]
  have henvironment := Environment.distinctNames_entries hleaves.entries_eq
  rw [unflagged, at?_sourceEntries henvironment hdistinct htables hflags, hnone, overlaid_none_right]

/-- What is checked of a setting and of the sections that it is in. -/
theorem at?_eq (hleaves : SetsLeaves h named start located file environment)
    (hpath : path ++ back = leaf.path) (hne : path ≠ []) :
    (table (unflagged located file environment)).at? path =
      overlaid ((table file).at? path) ((table environment).at? path) := by
  obtain ⟨name, names, rfl⟩ := List.exists_cons_of_ne_nil hne
  refine hleaves.at?_cons ?_ (hleaves.inEnvironment.tablesAlong hpath)
  rintro rfl
  cases leaf <;> exact absurd (List.cons.inj hpath).1 (by decide)

theorem exists_check (hleaves : SetsLeaves h named start located file environment)
    (hgiven : given file environment leaf = some v) : ∃ c, leaf.check v = .ok c := by
  obtain ⟨c, hc⟩ := hleaves.readable leaf v hgiven
  exact Leaf.exists_check_of_reads hc

theorem at?_leaf (hleaves : SetsLeaves h named start located file environment) (leaf : Leaf) :
    (table (unflagged located file environment)).at? leaf.path =
      given file environment leaf := by
  have hne : leaf.path ≠ [] := by cases leaf <;> exact List.cons_ne_nil _ _
  rw [hleaves.at?_eq (List.append_nil _) hne]
  cases hgiven : given file environment leaf with
  | none => exact overlaid_eq_none_iff.mpr hgiven
  | some v =>
    obtain ⟨c, hc⟩ := hleaves.exists_check hgiven
    exact (overlaid_eq_some_iff (Leaf.not_isTable_of_check hc)).mpr hgiven

theorem isTable (hleaves : SetsLeaves h named start located file environment)
    (hpath : path ++ back = leaf.path) (hne : path ≠ []) (hback : back ≠ [])
    (hat : (table (unflagged located file environment)).at? path = some v) :
    v.IsTable := by
  rw [hleaves.at?_eq hpath hne] at hat
  cases habove : (table environment).at? path with
  | none =>
    rw [habove, overlaid_none_right] at hat
    exact hleaves.inFile.isTable hpath hback hat
  | some w =>
    rw [habove, overlaid_some, Option.some.injEq] at hat
    rw [← hat, isTable_overlayValue]
    exact hleaves.inEnvironment.isTable hpath hback habove

/-- What is checked of a setting that is in no section. -/
theorem lookup_eq_given (hleaves : SetsLeaves h named start located file environment)
    (hpath : leaf.path = [name]) :
    (unflagged located file environment).lookup name = given file environment leaf := by
  rw [← at?_singleton, ← hpath]
  exact hleaves.at?_leaf leaf

/-- Every name that is set is known. -/
theorem checkNames_eq (hleaves : SetsLeaves h named start located file environment) :
    checkNames (unflagged located file environment) = .ok () := by
  have hknown : ∀ e ∈ unflagged located file environment, e.1 ∈ names := by
    intro e he
    by_cases hname : e.1 = "config_path"
    · rw [hname]
      decide
    · have hsome := List.lookup_isSome_iff.mpr ⟨e, he, beq_self_eq_true e.1⟩
      obtain ⟨v, hv⟩ := Option.isSome_iff_exists.mp hsome
      rw [← at?_singleton, hleaves.at?_cons hname tablesAlong_singleton] at hv
      have hhead : ∃ (leaf : Leaf) (names : List String), leaf.path = e.1 :: names := by
        cases habove : (table environment).at? [e.1] with
        | none =>
          rw [habove, overlaid_none_right] at hv
          exact hleaves.inFile.head_eq hv
        | some w => exact hleaves.inEnvironment.head_eq habove
      obtain ⟨leaf, rest, hpath⟩ := hhead
      cases leaf <;> rw [← (List.cons.inj hpath).1] <;> decide
  rw [checkNames, List.filter_eq_nil_iff.mpr]
  intro e he
  simpa using hknown e he

theorem lookup_views (hleaves : SetsLeaves h named start located file environment) :
    (unflagged located file environment).lookup "views" = none := by
  have hnone {es : List (String × Value)} (honly : OnlyLeaves es) :
      (table es).at? ["views"] = none := by
    rw [Option.eq_none_iff_forall_ne_some]
    intro v hv
    obtain ⟨leaf, rest, hpath⟩ := honly.head_eq hv
    cases leaf <;> exact absurd (List.cons.inj hpath).1 (by decide)
  rw [← at?_singleton, hleaves.at?_cons (by decide) tablesAlong_singleton,
    hnone hleaves.inFile, hnone hleaves.inEnvironment]
  rfl

end SetsLeaves

/-! ## The settings of a call -/

/-- Whether one of the sources has a table with the sort order. -/
def givesSort (file environment : List (String × Value)) : Bool :=
  (((table environment).at? ["query", "sort"]).or ((table file).at? ["query", "sort"])).isSome

/-- What stands where nothing is set: the defaults, but no sort order if there is a table for it. -/
def unset (givesSort : Bool) : Settings :=
  { query := { sort := if givesSort then {} else ⟨some "start", .descending⟩ } }

theorem expandedHome_congr {others : List (String × Value)}
    (hlookup : entries.lookup "home" = others.lookup "home") :
    expandedHome h entries = expandedHome h others := by
  unfold expandedHome
  rw [Value.lookup?, Value.lookup?, hlookup]

theorem SetsLeaves.isSome_sort (hleaves : SetsLeaves h named start located file environment) :
    ((table (unflagged located file environment)).at? ["query", "sort"]).isSome =
      givesSort file environment := by
  have hpath : ["query", "sort"] ++ ["field"] = Leaf.sortField.path := rfl
  rw [hleaves.at?_eq hpath (List.cons_ne_nil _ _), givesSort, Bool.eq_iff_iff,
    Option.isSome_iff_ne_none, Option.isSome_iff_ne_none, ne_eq, overlaid_eq_none_iff]

/-- What stands for each setting in the checks of a call. -/
theorem SetsLeaves.accepts (hleaves : SetsLeaves h named start located file environment)
    {c : (leaf : Leaf) → leaf.Content}
    (hc : ∀ leaf, Stands (given file environment leaf) leaf.check
      (leaf.get (unset (givesSort file environment))) (c leaf)) :
    Accepts (unflagged located file environment)
      { home := c .home
        configPath := located.map fun path => Path.ofString path.toString
        jsonOutput := c .jsonOutput
        verbose := c .verbose
        logJson := c .logJson
        display := c .display
        scan := ⟨c .recursive, c .workers⟩
        query := ⟨c .fields, ⟨c .sortField, c .sortOrder⟩⟩ } := by
  have hat (leaf : Leaf) : Stands
      ((table (unflagged located file environment)).at? leaf.path) leaf.check
      (leaf.get (unset (givesSort file environment))) (c leaf) := by
    rw [hleaves.at?_leaf]
    exact hc leaf
  have hconfigPath : (unflagged located file environment).lookup
      "config_path" = some (locatedValue located) :=
    lookup_configPath (p := {}) (Environment.distinctNames_entries hleaves.entries_eq)
  have hleaf (leaf : Leaf) (name : String) (hname : leaf.path = [name]) : Stands
      ((unflagged located file environment).lookup name) leaf.check
      (leaf.get (unset (givesSort file environment))) (c leaf) := by
    rw [hleaves.lookup_eq_given hname]
    exact hc leaf
  have hsection (leaf : Leaf) (name next : String) (names : List String)
      (hpath : [name] ++ next :: names = leaf.path) (v : Value)
      (hv : (unflagged located file environment).lookup name = some v) : v.IsTable := by
    rw [← at?_singleton] at hv
    exact hleaves.isTable hpath (List.cons_ne_nil _ _) (List.cons_ne_nil _ _) hv
  have hsort : ∀ v, (table (unflagged located file environment)).at?
      ["query", "sort"] = some v → v.IsTable := by
    intro v hv
    have hpath : ["query", "sort"] ++ ["field"] = Leaf.sortField.path := rfl
    exact hleaves.isTable hpath (List.cons_ne_nil _ _) (List.cons_ne_nil _ _) hv
  constructor
  case scan =>
    rw [Check.option_eq_ok_iff, ScanOptions.stands_iff (hsection .workers "scan" _ _ rfl)]
    exact ⟨hat .recursive, hat .workers⟩
  case query =>
    rw [Check.option_eq_ok_iff, QueryDefaults.stands_iff (hsection .fields "query" _ _ rfl)]
    refine ⟨hat .fields, ?_⟩
    rw [← at?_cons_table, Sorting.stands_iff hsort, hleaves.isSome_sort, ← at?_append,
      ← at?_append]
    exact ⟨hat .sortField, hat .sortOrder⟩
  case configPath =>
    rw [Check.option_eq_ok_iff, hconfigPath]
    cases located <;> rfl
  case views =>
    rw [Check.option_eq_ok_iff, hleaves.lookup_views]
    rfl
  case names => exact hleaves.checkNames_eq
  case home => exact Check.option_eq_ok_iff.mpr (hleaf .home "home" rfl)
  case display => exact Check.option_eq_ok_iff.mpr (hleaf .display "display" rfl)
  case jsonOutput => exact Check.option_eq_ok_iff.mpr (hleaf .jsonOutput "json_output" rfl)
  case verbose => exact Check.option_eq_ok_iff.mpr (hleaf .verbose "verbose" rfl)
  case logJson => exact Check.option_eq_ok_iff.mpr (hleaf .logJson "log_json" rfl)

theorem Leaf.isSetBy_of_stands {leaf : Leaf} {o : Option Value} {others : Settings}
    (hne : leaf ≠ .home) (hstands : Stands o leaf.check (leaf.get others) (leaf.get s)) :
    leaf.IsSetBy h o s others := by
  cases o with
  | none => exact hstands
  | some v => cases leaf <;> first | exact hstands | exact absurd rfl hne

theorem SetsLeaves.exists_expandedHome
    (hleaves : SetsLeaves h named start located file environment) :
    ∃ home, expandedHome h (unflagged located file environment) = .ok home ∧
      ∀ s : Settings, s.home = home → Leaf.home.IsSetBy h (given file environment .home) s
        (unset (givesSort file environment)) := by
  have hlookup : (unflagged located file environment).lookup "home" =
      given file environment .home := hleaves.lookup_eq_given rfl
  cases hgiven : given file environment .home with
  | none =>
    rw [hgiven] at hlookup
    refine ⟨none, ?_, fun s hs => hs⟩
    rw [expandedHome_congr (hlookup.trans List.lookup_nil.symm)]
    rfl
  | some v =>
    obtain ⟨home, hcheck, hexpanded⟩ := hleaves.readable .home v hgiven
    rw [hgiven] at hlookup
    refine ⟨home, ?_, ?_⟩
    · rw [← hexpanded]
      refine expandedHome_congr ?_
      rw [hlookup]
      rfl
    · rintro s rfl
      exact ⟨hcheck, hexpanded⟩

theorem SetsLeaves.exists_load (hleaves : SetsLeaves h named start located file environment) :
    ∃ s, load h named start [] = .ok s ∧
      (∀ leaf : Leaf, leaf.IsSetBy h (given file environment leaf) s
        (unset (givesSort file environment))) ∧
      s.configPath = located.map (fun path => Path.ofString path.toString) ∧ s.views = .empty := by
  have hstands : ∀ leaf : Leaf, ∃ c, Stands (given file environment leaf) leaf.check
      (leaf.get (unset (givesSort file environment))) c := fun leaf =>
    exists_stands (fun v hv => hleaves.exists_check hv) _
  choose c hc using hstands
  have haccepts := hleaves.accepts hc
  obtain ⟨home, hexpanded, hhome⟩ := hleaves.exists_expandedHome
  have hload : load h named start [] = checked h located (unflagged located file environment) :=
    load_eq_checked (.intro hleaves.locateFile_eq hleaves.fileEntries_eq hleaves.entries_eq)
  refine ⟨_, hload.trans (checked_of_accepts haccepts hexpanded), fun leaf => ?_, rfl, rfl⟩
  by_cases hne : leaf = .home
  · rw [hne]
    exact hhome _ rfl
  · refine Leaf.isSetBy_of_stands hne ?_
    have hleaf := hc leaf
    cases leaf <;> first | exact hleaf | exact absurd rfl hne

/-- Settings are the defaults if all their parts are. -/
theorem eq_default_of_get (hget : ∀ leaf : Leaf, leaf.get s = leaf.get {})
    (hconfigPath : s.configPath = none) (hviews : s.views = .empty) : s = {} := by
  obtain ⟨home, configPath, jsonOutput, verbose, logJson, display, ⟨recursive, workers⟩,
    ⟨fields, ⟨field, order⟩⟩, views⟩ := s
  obtain rfl : home = none := hget .home
  obtain rfl : configPath = none := hconfigPath
  obtain rfl : jsonOutput = false := hget .jsonOutput
  obtain rfl : verbose = false := hget .verbose
  obtain rfl : logJson = false := hget .logJson
  obtain rfl : display = .table := hget .display
  obtain rfl : recursive = true := hget .recursive
  obtain rfl : workers = 1 := hget .workers
  obtain rfl : fields = defaultFields := hget .fields
  obtain rfl : field = some "start" := hget .sortField
  obtain rfl : order = .descending := hget .sortOrder
  obtain rfl : views = .empty := hviews
  rfl

/-! ## Tables with one setting -/

/-- A value inside tables that hold nothing else. -/
def nest (v : Value) : List String → Value
  | [] => v
  | name :: names => .table [(name, nest v names)]

theorem isPrefix_of_at?_nest {path front : List String} {v w : Value} (hv : ¬ v.IsTable)
    (hat : (nest v path).at? front = some w) : front <+: path ∧ (front ≠ path → w.IsTable) := by
  induction path generalizing front with
  | nil =>
    cases front with
    | nil => exact ⟨List.prefix_rfl, fun hne => absurd rfl hne⟩
    | cons name names =>
      rw [nest, at?_cons_of_not_isTable hv] at hat
      cases hat
  | cons first path ih =>
    cases front with
    | nil =>
      refine ⟨List.nil_prefix, fun _ => ?_⟩
      rw [at?_nil] at hat
      exact ⟨_, (Option.some.inj hat).symm⟩
    | cons name names =>
      rw [nest, at?_cons_table] at hat
      obtain ⟨below, hlookup, hbelow⟩ := Option.bind_eq_some_iff.mp hat
      by_cases hname : name = first
      · rw [hname, List.lookup_cons_self, Option.some.injEq] at hlookup
        rw [← hlookup] at hbelow
        obtain ⟨hfront, htable⟩ := ih hbelow
        rw [hname]
        exact ⟨List.cons_prefix_cons.mpr ⟨rfl, hfront⟩,
          fun hne => htable fun heq => hne (congrArg _ heq)⟩
      · rw [List.lookup_cons, beq_eq_false_iff_ne.mpr hname] at hlookup
        cases hlookup

theorem onlyLeaves_nil : OnlyLeaves [] := by
  intro path v hat
  cases path with
  | nil =>
    rw [at?_nil] at hat
    exact ⟨.home, List.nil_prefix, fun _ => ⟨_, (Option.some.inj hat).symm⟩⟩
  | cons name names => cases hat

theorem onlyLeaves_of_nest {es : List (String × Value)} {v : Value} (leaf : Leaf)
    (hes : table es = nest v leaf.path) (hv : ¬ v.IsTable) : OnlyLeaves es := by
  intro path w hat
  rw [hes] at hat
  exact ⟨leaf, isPrefix_of_at?_nest hv hat⟩

/-! ## The settings of a call -/

/-- What a configuration leaves open need not have its default: where it gives the order alone, notes
are sorted by no field. -/
theorem not_load_keeps_every_default :
    let text := "[query.sort]\norder = 'asc'"
    let h : Host :=
      { tree := .directory [("mdviews.toml", .file (text.toList.map fun c => c.toNat.toUInt8))]
        workingDirectory := []
        environment := []
        homes := [] }
    (∃ s, load h none none [] = .ok s ∧ s.query.sort = ⟨none, .ascending⟩) ∧
      ¬ ∀ h named start located file environment,
        SetsLeaves h named start located file environment →
          ∃ s, load h named start [] = .ok s ∧
            ∀ leaf : Leaf, leaf.IsSetBy h (given file environment leaf) s {} := by
  intro text h
  let located : Option Path := some ⟨.slash, ["mdviews.toml"]⟩
  let file : List (String × Value) := [("query", .table [("sort", .table [("order", .text "asc")])])]
  have hread : fileEntries h located = .ok file := eq_ok_of_toOption_eq_some (by decide +kernel)
  have hload : load h none none [] = checked h located (unflagged located file []) :=
    load_eq_checked (.intro rfl hread rfl)
  obtain ⟨s, hs⟩ : ∃ s, checked h located (unflagged located file []) = .ok s := ⟨_, rfl⟩
  have hsort : s.query.sort = ⟨none, .ascending⟩ := by
    cases hs
    rfl
  refine ⟨⟨s, hload.trans hs, hsort⟩, fun hall => ?_⟩
  have hleaves : SetsLeaves h none none located file [] := by
    refine ⟨rfl, hread, rfl, ?_, ?_, ?_⟩
    · exact onlyLeaves_of_nest .sortOrder rfl not_isTable_text
    · exact onlyLeaves_nil
    · intro leaf v hv
      cases leaf <;> cases hv
      exact ⟨.ascending, rfl⟩
  obtain ⟨t, ht, hset⟩ := hall _ _ _ _ _ _ hleaves
  have hst : s = t := Except.ok.inj ((hload.trans hs).symm.trans ht)
  have hfield : t.query.sort.field = some "start" := hset .sortField
  rw [← hst, hsort] at hfield
  cases hfield

/-- Each single setting of a call is what the value that counts is read as. What has no value has its
default, but for the sort order where there is a table for it; without any configuration these are the
default settings. A query without options is made of these settings and of nothing else. -/
theorem load_of_leaves (hleaves : SetsLeaves h named start located file environment) :
    ∃ s, load h named start [] = .ok s ∧
      (∀ leaf : Leaf, leaf.IsSetBy h (given file environment leaf) s
        (unset (givesSort file environment))) ∧
      s.views = .empty ∧
      (located = none → givesSort file environment = false →
        (∀ leaf, given file environment leaf = none) → s = {}) ∧
      ∀ p : CommandLine.Parsed, p.options = [] → CommandLine.queryOf s p =
        { sort := some ⟨Leaf.sortField.get s, Leaf.sortOrder.get s⟩
          fields := some (Leaf.fields.get s) } := by
  obtain ⟨s, hload, hset, hconfigPath, hviews⟩ := hleaves.exists_load
  refine ⟨s, hload, hset, hviews, ?_, ?_⟩
  · rintro rfl hsort hnone
    refine eq_default_of_get (fun leaf => ?_) hconfigPath hviews
    have hleaf := hset leaf
    rw [hsort, hnone leaf] at hleaf
    exact hleaf
  · rintro ⟨options, arguments⟩ rfl
    rfl

/-- The number of workers is set by the environment and the field of the sort order by the file, which
takes the descending order away. -/
theorem load_of_leaves_of_workers :
    let text := "query.sort.field = 'rating'"
    let h : Host :=
      { tree := .directory [("mdviews.toml", .file (text.toList.map fun c => c.toNat.toUInt8))]
        workingDirectory := []
        environment := [("MDVIEWS_SCAN__WORKERS", "3")]
        homes := [] }
    let located : Option Path := some ⟨.slash, ["mdviews.toml"]⟩
    let file : List (String × Value) :=
      [("query", .table [("sort", .table [("field", .text "rating")])])]
    let environment : List (String × Value) := [("scan", .table [("workers", .text "3")])]
    SetsLeaves h none none located file environment ∧
      ∃ s, load h none none [] = .ok s ∧ s.scan = ⟨true, 3⟩ ∧
        s.query = ⟨defaultFields, ⟨some "rating", .ascending⟩⟩ := by
  intro text h located file environment
  have hleaves : SetsLeaves h none none located file environment := by
    refine ⟨rfl, eq_ok_of_toOption_eq_some (by decide +kernel), rfl, ?_, ?_, ?_⟩
    · exact onlyLeaves_of_nest .sortField rfl not_isTable_text
    · exact onlyLeaves_of_nest .workers rfl not_isTable_text
    · intro leaf v hv
      cases leaf with
      | workers =>
        obtain rfl := Option.some.inj hv
        exact ⟨(3 : Int), rfl⟩
      | sortField =>
        obtain rfl := Option.some.inj hv
        exact ⟨(some "rating" : Option String), rfl⟩
      | _ => cases hv
  obtain ⟨s, hload, hset, -⟩ := load_of_leaves hleaves
  refine ⟨hleaves, s, hload, ?_, ?_⟩
  · have hrecursive : s.scan.recursive = true := hset .recursive
    have hworkers : Checked.ok 3 = Checked.ok s.scan.workers := hset .workers
    show ScanOptions.mk s.scan.recursive s.scan.workers = _
    rw [hrecursive, ← Checked.ok.inj hworkers]
  · have hfields : s.query.fields = defaultFields := hset .fields
    have hfield : Checked.ok (some "rating") = Checked.ok s.query.sort.field := hset .sortField
    have horder : s.query.sort.order = .ascending := hset .sortOrder
    show QueryDefaults.mk s.query.fields ⟨s.query.sort.field, s.query.sort.order⟩ = _
    rw [hfields, ← Checked.ok.inj hfield, horder]

end Settings

end NoteQuery
