import NoteQuery.CommandLine.Run
import NoteQuery.Proofs.Settings.AcceptedSettings
import NoteQuery.Proofs.Settings.EnvironmentTables
import NoteQuery.Proofs.Value.Equality
import NoteQuery.Proofs.Vault.Listings

/-!
# Which source counts

The settings of a call come from its flags, the environment and a file. At every path through sections
the value is checked that the first of these sources has there. A source that sets something in a
section therefore hides nothing else in it, and a flag that is not given hides nothing. The file that
was located is not looked up in any source.

* `Path.ofString_toString`: paths are read back as they are written.
* `at?_sourceEntries`: what is found at a path in the three sources over each other.
* `configPath_of_checked`: the file of a call and the one that its settings name.
* `load_first_source`: all of it.
-/

namespace NoteQuery

/-! ## Paths as they are written -/

namespace Path

/-- A component that is kept when a path is read. -/
def IsComponent (part : String) : Prop := part ≠ "" ∧ part ≠ "." ∧ '/' ∉ part.toList

variable {parts : List String}

theorem partsOf_intercalate (h : ∀ part ∈ parts, IsComponent part) :
    partsOf ("/".intercalate parts).toList = parts := by
  cases parts with
  | nil => rfl
  | cons part rest =>
    have hslash : ∀ cs ∈ (part :: rest).map String.toList, '/' ∉ cs := by
      rw [List.forall_mem_map]
      exact fun q hq => (h q hq).2.2
    have hkept : ∀ cs ∈ (part :: rest).map String.toList, (cs != [] && cs != ['.']) = true := by
      rw [List.forall_mem_map]
      intro q hq
      obtain ⟨hempty, hdot, -⟩ := h q hq
      rw [Bool.and_eq_true, bne_iff_ne, bne_iff_ne]
      exact ⟨fun hnil => hempty (String.toList_inj.mp hnil),
        fun hone => hdot (String.toList_inj.mp hone)⟩
    rw [partsOf, String.toList_intercalate]
    show List.map _ (List.filter _ (List.splitOn '/' (['/'].intercalate _))) = _
    rw [List.splitOn_intercalate '/' hslash (by simp), List.filter_eq_self.mpr hkept, List.map_map,
      String.ofList_comp_toList, List.map_id]

theorem head?_intercalate (h : ∀ part ∈ parts, IsComponent part) :
    ("/".intercalate parts).toList.head? ≠ some '/' := by
  cases parts with
  | nil => exact nofun
  | cons part rest =>
    obtain ⟨hempty, -, hslash⟩ := h part List.mem_cons_self
    have hne : part.toList ≠ [] := fun hnil => hempty (String.toList_inj.mp hnil)
    obtain ⟨c, cs, hpart⟩ := List.exists_cons_of_ne_nil hne
    have hc : c ≠ '/' := fun hc => hslash (hpart ▸ hc ▸ List.mem_cons_self)
    rw [String.toList_intercalate, List.map_cons, hpart]
    cases rest with
    | nil => simpa using hc
    | cons next rest => simpa using hc

theorem partsOf_cons_slash (cs : List Char) : partsOf ('/' :: cs) = partsOf cs := by
  have hsplit := List.splitOn_append_cons_self (a := '/') [] cs
  rw [partsOf, show '/' :: cs = [] ++ '/' :: cs from rfl, hsplit]
  rfl

theorem rootOf_of_head?_ne {cs : List Char} (h : cs.head? ≠ some '/') :
    rootOf cs = .relative ∧ rootOf ('/' :: cs) = .slash ∧
      rootOf ('/' :: '/' :: cs) = .doubleSlash := by
  cases cs with
  | nil => exact ⟨rfl, rfl, rfl⟩
  | cons c cs =>
    have hc : c ≠ '/' := fun hc => h (congrArg some hc)
    simp [rootOf, hc]

/-- Paths are read back as they are written. -/
theorem ofString_toString {p : Path} (h : ∀ part ∈ p.parts, IsComponent part) :
    ofString p.toString = p := by
  obtain ⟨root, parts⟩ := p
  have hparts := partsOf_intercalate h
  obtain ⟨hrelative, hslash, hdouble⟩ := rootOf_of_head?_ne (head?_intercalate h)
  cases root with
  | relative =>
    cases parts with
    | nil => rfl
    | cons part rest =>
      have htext : toString ⟨.relative, part :: rest⟩ = "/".intercalate (part :: rest) := by
        simp [toString, rootText]
      rw [htext, ofString, hrelative, hparts]
  | slash =>
    have htext : (toString ⟨.slash, parts⟩).toList = '/' :: ("/".intercalate parts).toList := by
      simp [toString, rootText]
    rw [ofString, htext, hslash, partsOf_cons_slash, hparts]
  | doubleSlash =>
    have htext : (toString ⟨.doubleSlash, parts⟩).toList =
        '/' :: '/' :: ("/".intercalate parts).toList := by
      simp [toString, rootText]
    rw [ofString, htext, hdouble, partsOf_cons_slash, partsOf_cons_slash, hparts]

end Path

namespace Tree

variable {t u : Tree} {above : List Tree} {parts : List String}

/-- What a tree is walked along are components that paths keep. -/
theorem isComponent_of_walk (habove : ∀ a ∈ above, a.WellFormed) (ht : t.WellFormed)
    (h : walk above t parts = .ok u) : ∀ part ∈ parts, Path.IsComponent part := by
  induction parts generalizing above t with
  | nil => exact nofun
  | cons part parts ih =>
    cases ht with
    | file bytes => cases h
    | @directory entries nodup names below =>
      simp only [walk] at h
      split at h
      · rename_i hdots
        have hpart : Path.IsComponent part := by
          rw [hdots]
          exact ⟨by decide, by decide, by decide⟩
        cases above with
        | nil =>
          exact List.forall_mem_cons.mpr
            ⟨hpart, ih (fun a ha => by cases ha) (.directory nodup names below) h⟩
        | cons parent rest =>
          obtain ⟨hparent, hrest⟩ := List.forall_mem_cons.mp habove
          exact List.forall_mem_cons.mpr ⟨hpart, ih hrest hparent h⟩
      · cases hlookup : entries.lookup part with
        | none =>
          rw [hlookup] at h
          cases h
        | some next =>
          rw [hlookup] at h
          have hmem := (OrderedMap.get?_eq_some_iff (m := ⟨entries, nodup⟩)).mp hlookup
          obtain ⟨hempty, hdot, -, hslash⟩ := names _ hmem
          exact List.forall_mem_cons.mpr ⟨⟨hempty, hdot, hslash⟩,
            ih (List.forall_mem_cons.mpr ⟨.directory nodup names below, habove⟩) (below _ hmem) h⟩

end Tree

namespace Settings

open Value

variable {h : Host} {named : Option String} {start located : Option Path}
  {p : CommandLine.Parsed} {file environment flags : List (String × Value)} {path : List String}
  {v : Value}

/-! ## The file of a call -/

theorem ofString_toString_of_isFile {path : Path} (ht : h.tree.WellFormed) (hfile : h.isFile path) :
    Path.ofString path.toString = path := by
  obtain ⟨bytes, hfind⟩ := exists_bytes_of_isFile hfile
  have hcomponents := Tree.isComponent_of_walk (fun a ha => by cases ha) ht hfind
  refine Path.ofString_toString fun part hpart => hcomponents part ?_
  unfold Host.locate
  split
  · exact hpart
  · exact List.mem_append_right _ hpart

/-- The value under `config_path` that the flags of a call set. -/
def locatedValue (located : Option Path) : Value :=
  located.elim .null fun path => .text path.toString

theorem not_isTable_locatedValue : ¬ (locatedValue located).IsTable := by
  rintro ⟨es, hes⟩
  cases located <;> cases hes

theorem flagEntries_eq (located : Option Path) (flags : List (String × Value)) :
    flagEntries located flags = ("config_path", locatedValue located) :: flags := by
  cases located <;> rfl

/-! ## Flags -/

/-- The names of the flags. -/
def flagNames : List String := ["json_output", "verbose", "log_json"]

theorem mem_flagEntries_iff {name : String} :
    (name, v) ∈ flagEntries located (CommandLine.flagsOf p) ↔
    name = "config_path" ∧ v = locatedValue located ∨
      name ∈ flagNames ∧ p.has name ∧ v = .bool true := by
  rw [flagEntries_eq, List.mem_cons, Prod.mk.injEq, CommandLine.flagsOf, List.mem_map]
  refine or_congr_right ?_
  constructor
  · rintro ⟨flag, hflag, heq⟩
    obtain ⟨rfl, rfl⟩ := Prod.mk.inj heq
    obtain ⟨hname, hgiven⟩ := List.mem_filter.mp hflag
    exact ⟨hname, hgiven, rfl⟩
  · rintro ⟨hname, hgiven, rfl⟩
    exact ⟨name, List.mem_filter.mpr ⟨hname, hgiven⟩, rfl⟩

theorem nodup_flagEntries :
    ((flagEntries located (CommandLine.flagsOf p)).map Prod.fst).Nodup := by
  have hall : ("config_path" :: flagNames).Nodup := by decide
  refine hall.sublist ?_
  rw [flagEntries_eq, List.map_cons, CommandLine.flagsOf, List.map_map]
  refine List.Sublist.cons_cons _ ?_
  show ((flagNames.filter p.has).map id).Sublist flagNames
  rw [List.map_id]
  exact List.filter_sublist

theorem not_isTable_of_mem_flagEntries {name : String}
    (hmem : (name, v) ∈ flagEntries located (CommandLine.flagsOf p)) : ¬ v.IsTable := by
  rcases mem_flagEntries_iff.mp hmem with ⟨-, rfl⟩ | ⟨-, -, rfl⟩
  · exact not_isTable_locatedValue
  · exact not_isTable_bool

theorem distinctNames_flagEntries :
    (table (flagEntries located (CommandLine.flagsOf p))).DistinctNames := by
  refine distinctNames_table_iff.mpr ⟨nodup_flagEntries, ?_⟩
  rintro ⟨name, v⟩ hmem
  exact distinctNames_of_not_isTable (not_isTable_of_mem_flagEntries hmem)

/-- What the flags of a call set. -/
theorem at?_flagEntries_eq_some_iff {name : String} {names : List String} :
    (table (flagEntries located (CommandLine.flagsOf p))).at? (name :: names) = some v ↔
      names = [] ∧ (name = "config_path" ∧ v = locatedValue located ∨
        name ∈ flagNames ∧ p.has name ∧ v = .bool true) := by
  rw [← mem_flagEntries_iff, at?_cons_table, Option.bind_eq_some_iff]
  constructor
  · rintro ⟨w, hlookup, hw⟩
    have hmem := (OrderedMap.get?_eq_some_iff (m := ⟨_, nodup_flagEntries⟩)).mp hlookup
    cases names with
    | nil => exact ⟨rfl, Option.some.inj hw ▸ hmem⟩
    | cons next names =>
      rw [at?_cons_of_not_isTable (not_isTable_of_mem_flagEntries hmem)] at hw
      cases hw
  · rintro ⟨rfl, hmem⟩
    exact ⟨v, (OrderedMap.get?_eq_some_iff (m := ⟨_, nodup_flagEntries⟩)).mpr hmem, at?_nil v⟩

/-! ## The sources over each other -/

theorem at?_sourceEntries (henvironment : (table environment).DistinctNames)
    (hflags : (table flags).DistinctNames)
    (henvironmentPath : (table environment).TablesAlong path)
    (hflagsPath : (table flags).TablesAlong path) :
    (table (sourceEntries file environment flags)).at? path =
      overlaid ((table file).at? path)
        (overlaid ((table environment).at? path) ((table flags).at? path)) := by
  rw [sourceEntries, at?_overlay (distinctNames_overlay henvironment hflags)
    (tablesAlong_overlay hflags henvironmentPath hflagsPath), at?_overlay hflags hflagsPath]

/-- The value at a path of the first of some sources that has one there. -/
def firstAt? (path : List String) (sources : List (List (String × Value))) : Option Value :=
  sources.findSome? fun es => (table es).at? path

theorem firstAt?_sources : firstAt? path [flags, environment, file] =
    (((table flags).at? path).or ((table environment).at? path)).or ((table file).at? path) := by
  simp only [firstAt?, List.findSome?_cons, List.findSome?_nil]
  cases (table flags).at? path <;> cases (table environment).at? path <;>
    cases (table file).at? path <;> rfl

theorem overlaid_overlaid_eq_some_iff {below middle above : Option Value} (hv : ¬ v.IsTable) :
    overlaid below (overlaid middle above) = some v ↔ (above.or middle).or below = some v := by
  rw [overlaid_eq_some_iff hv, Option.or_eq_some_iff, Option.or_eq_some_iff,
    overlaid_eq_some_iff hv, overlaid_eq_none_iff]

theorem overlaid_overlaid_eq_none_iff {below middle above : Option Value} :
    overlaid below (overlaid middle above) = none ↔ (above.or middle).or below = none := by
  rw [overlaid_eq_none_iff, Option.or_eq_none_iff, Option.or_eq_none_iff, overlaid_eq_none_iff]

/-- Among the flags the file that was located stands over every other one. -/
theorem lookup_configPath (henvironment : (table environment).DistinctNames) :
    (sourceEntries file environment (flagEntries located (CommandLine.flagsOf p))).lookup
      "config_path" = some (locatedValue located) := by
  have hflag : (table (flagEntries located (CommandLine.flagsOf p))).at? ["config_path"] =
      some (locatedValue located) :=
    at?_flagEntries_eq_some_iff.mpr ⟨rfl, Or.inl ⟨rfl, rfl⟩⟩
  rw [← at?_singleton, at?_sourceEntries henvironment distinctNames_flagEntries
    tablesAlong_singleton tablesAlong_singleton,
    overlaid_overlaid_eq_some_iff not_isTable_locatedValue, hflag]
  rfl

theorem configPath_of_checked {entries : List (String × Value)} {s : Settings}
    (hpath : ∀ path, located = some path → Path.ofString path.toString = path)
    (hlookup : entries.lookup "config_path" = some (locatedValue located))
    (hchecked : checked h located entries = .ok s) : s.configPath = located := by
  obtain ⟨t, haccepts, -, hs⟩ := exists_accepts_of_checked hchecked
  have hoption := haccepts.configPath
  rw [Check.option, Value.lookup?, hlookup] at hoption
  have hcheck := Checked.within_eq_ok_iff.mp hoption
  rw [hs]
  show t.configPath = located
  cases located with
  | none => exact (Checked.ok.inj hcheck).symm
  | some path =>
    rw [← Checked.ok.inj hcheck]
    exact congrArg some (hpath path rfl)

/-- At every path through sections the value is checked that the first of flags, environment and file
has there. Where the flags and the environment have none, the file shows through, whatever they have
beside it. The flags that are given set themselves and nothing else but the file that was located,
which is the one that the settings name. -/
theorem load_first_source (hlocated : locateFile h named start = .ok located)
    (hread : fileEntries h located = .ok file)
    (hvalues : Environment.entries h.environment = .ok environment) :
    let flags := flagEntries located (CommandLine.flagsOf p)
    let entries := sourceEntries file environment flags
    load h named start (CommandLine.flagsOf p) = checked h located entries ∧
    (∀ path, (table flags).TablesAlong path → (table environment).TablesAlong path →
      (∀ v, ¬ v.IsTable →
        ((table entries).at? path = some v ↔ firstAt? path [flags, environment, file] = some v)) ∧
      ((table entries).at? path = none ↔ firstAt? path [flags, environment, file] = none) ∧
      ((table flags).at? path = none → (table environment).at? path = none →
        (table entries).at? path = (table file).at? path)) ∧
    (∀ name names v, (table flags).at? (name :: names) = some v ↔
      names = [] ∧ (name = "config_path" ∧ v = locatedValue located ∨
        name ∈ flagNames ∧ p.has name ∧ v = .bool true)) ∧
    (table entries).at? ["config_path"] = some (locatedValue located) ∧
    (h.tree.WellFormed →
      ∀ s, load h named start (CommandLine.flagsOf p) = .ok s → s.configPath = located) := by
  intro flags entries
  have hload : load h named start (CommandLine.flagsOf p) = checked h located entries :=
    load_eq_checked (.intro hlocated hread hvalues)
  have henvironment := Environment.distinctNames_entries hvalues
  have hconfigPath : entries.lookup "config_path" = some (locatedValue located) :=
    lookup_configPath henvironment
  refine ⟨hload, ?_, fun name names v => at?_flagEntries_eq_some_iff,
    at?_singleton.trans hconfigPath, ?_⟩
  · intro path hflagsPath henvironmentPath
    rw [at?_sourceEntries henvironment distinctNames_flagEntries henvironmentPath hflagsPath,
      firstAt?_sources]
    refine ⟨fun v hv => overlaid_overlaid_eq_some_iff hv, overlaid_overlaid_eq_none_iff, ?_⟩
    intro hflags hnone
    rw [hflags, hnone]
    rfl
  · intro ht s hs
    refine configPath_of_checked ?_ hconfigPath (hload ▸ hs)
    rintro path rfl
    exact ofString_toString_of_isFile ht (isFile_of_locateFile hlocated)

theorem eq_ok_of_toOption_eq_some {ε α : Type} {x : Except ε α} {a : α} (h : x.toOption = some a) :
    x = .ok a := by
  cases x with
  | error e => cases h
  | ok b => exact congrArg Except.ok (Option.some.inj h)

/-- The file sets both settings of a section and the environment one of them, the flag wins over the
environment, and the environment cannot name another file. -/
theorem load_first_source_of_workers :
    let text := "[scan]\nrecursive = false\nworkers = '2'"
    let h : Host :=
      { tree := .directory [("mdviews.toml", .file (text.toList.map fun c => c.toNat.toUInt8))]
        workingDirectory := []
        environment := [("MDVIEWS_SCAN__WORKERS", "3"), ("MDVIEWS_VERBOSE", "no"),
          ("MDVIEWS_CONFIG_PATH", "x")]
        homes := [] }
    let located : Option Path := some ⟨.slash, ["mdviews.toml"]⟩
    let verbose : CommandLine.OptionSpec := { key := "verbose", names := ["-v"], help := "" }
    let p : CommandLine.Parsed := { options := [(verbose, "")] }
    let file : List (String × Value) :=
      [("scan", .table [("recursive", .bool false), ("workers", .text "2")])]
    let environment : List (String × Value) :=
      [("config_path", .text "x"), ("verbose", .text "no"),
        ("scan", .table [("workers", .text "3")])]
    let entries := sourceEntries file environment (flagEntries located (CommandLine.flagsOf p))
    locateFile h none none = .ok located ∧ fileEntries h located = .ok file ∧
      Environment.entries h.environment = .ok environment ∧
      load h none none (CommandLine.flagsOf p) = checked h located entries ∧
      (table entries).at? ["scan", "workers"] = some (.text "3") ∧
      (table entries).at? ["scan", "recursive"] = some (.bool false) ∧
      (table entries).at? ["verbose"] = some (.bool true) ∧
      (table entries).at? ["config_path"] = some (.text "/mdviews.toml") := by
  intro text h located verbose p file environment entries
  have hlocated : locateFile h none none = .ok located := rfl
  have hread : fileEntries h located = .ok file := eq_ok_of_toOption_eq_some (by decide +kernel)
  have hvalues : Environment.entries h.environment = .ok environment := rfl
  obtain ⟨hload, hpaths, -, hconfigPath, -⟩ := load_first_source (p := p) hlocated hread hvalues
  have hsection (name : String) :
      (table (flagEntries located (CommandLine.flagsOf p))).TablesAlong ["scan", name] ∧
        (table environment).TablesAlong ["scan", name] := by
    refine ⟨tablesAlong_table nofun, tablesAlong_table ?_⟩
    intro v hv
    obtain rfl := Option.some.inj hv
    exact tablesAlong_singleton
  have hworkers := hpaths ["scan", "workers"] (hsection _).1 (hsection _).2
  have hrecursive := hpaths ["scan", "recursive"] (hsection _).1 (hsection _).2
  have hverbose := hpaths ["verbose"] tablesAlong_singleton tablesAlong_singleton
  refine ⟨hlocated, hread, hvalues, hload, ?_, ?_, ?_, hconfigPath⟩
  · exact (hworkers.1 _ not_isTable_text).mpr rfl
  · exact hrecursive.2.2 rfl rfl
  · exact (hverbose.1 _ not_isTable_bool).mpr rfl

end Settings

end NoteQuery
