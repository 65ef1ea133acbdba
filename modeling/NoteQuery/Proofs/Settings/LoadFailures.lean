import NoteQuery.Settings.Load

/-!
# How loading fails

Not every failure of loading is reported as one of the configuration. A named file that is missing,
a file that is no TOML and settings that are refused are reported (`Reported`). A home directory that
is not known, a file that is no UTF-8, an integer with too many digits and a section of the
environment that is no JSON are not (`Escapes`).

Files and sections of the environment are read to any depth here, and names of files may have any
length. Where a reader runs out of stack in tables and lists that are nested too deeply, or an operating
system takes no names of such a length, there are failures beside these. They are not reported.

* `Path.expandHome_eq_none_iff`: paths with an unknown home directory.
* `isFile_of_locateFile`: the file of a call is there, so that it can be read but for its encoding.
* `Environment.entries_eq_error_iff`: environments that cannot be read.
* `not_isConfiguration_of_load`, `load_fails_iff`: failures that are not reported, and all failures.
-/

namespace NoteQuery

/-! ## Home directories -/

/-- A path that starts with the tilde of an account whose home directory is not known, or starts
with a tilde itself. -/
def Path.LacksHome (home : String → Option String) (p : Path) : Prop :=
  ∃ account rest, p = ⟨.relative, String.ofList ('~' :: account) :: rest⟩ ∧
    ∀ directory, home (String.ofList account) = some directory → directory.toList.head? = some '~'

theorem Path.expandHome_eq_none_iff {home : String → Option String} {p : Path} :
    p.expandHome home = none ↔ p.LacksHome home := by
  unfold expandHome
  split
  · rename_i first rest hroot hparts
    have hp : p = ⟨.relative, first :: rest⟩ := by rw [← hroot, ← hparts]
    split
    · rename_i account hfirst
      have hfirst : first = String.ofList ('~' :: account) := by
        rw [← hfirst, String.ofList_toList]
      rw [Option.map_eq_none_iff, Option.filter_eq_none_iff]
      constructor
      · intro hnone
        exact ⟨account, rest, hfirst ▸ hp, fun directory hdirectory => by
          simpa using hnone directory hdirectory⟩
      · rintro ⟨account', rest', hp', hlacks⟩ directory hdirectory
        have haccount : account = account' := by
          rw [hp, hfirst] at hp'
          have hparts := congrArg (fun q : Path => q.parts.map String.toList) hp'
          exact (by simpa using hparts : account = account' ∧ _).1
        simpa using hlacks directory (haccount ▸ hdirectory)
    · rename_i hfirst
      refine ⟨nofun, ?_⟩
      rintro ⟨account, rest', rfl, -⟩
      cases hparts
      exact absurd String.toList_ofList (hfirst account)
  · rename_i hother
    refine ⟨nofun, ?_⟩
    rintro ⟨account, rest, rfl, -⟩
    exact absurd rfl (hother _ _ rfl)

/-! ## Environments -/

namespace Environment

variable {bindings : List (String × String)} {name : String}

/-- The first of some sections that has no readable value. -/
def FirstUnreadable (bindings : List (String × String)) (sections : List (String × Shape))
    (name : String) : Prop :=
  ∃ before shape after,
    sections = before ++ (name, shape) :: after ∧ section? bindings name shape = none ∧
      ∀ e ∈ before, section? bindings e.1 e.2 ≠ none

theorem sectionEntries_eq_error_iff {sections : List (String × Shape)} :
    sectionEntries bindings sections = .error name ↔ FirstUnreadable bindings sections name := by
  induction sections with
  | nil =>
    refine ⟨nofun, ?_⟩
    rintro ⟨before, _, _, hnil, -⟩
    exact absurd hnil.symm (List.append_ne_nil_of_right_ne_nil before (List.cons_ne_nil _ _))
  | cons e rest ih =>
    obtain ⟨first, shape⟩ := e
    cases hfirst : section? bindings first shape with
    | none =>
      have herror : sectionEntries bindings ((first, shape) :: rest) = .error first := by
        rw [sectionEntries, hfirst]
      rw [herror, Except.error.injEq]
      constructor
      · rintro rfl
        exact ⟨[], shape, rest, rfl, hfirst, nofun⟩
      · rintro ⟨before, shape', after, heq, -, hbefore⟩
        cases before with
        | nil => exact congrArg Prod.fst (List.cons.inj heq).1
        | cons b before =>
          obtain ⟨rfl, -⟩ := List.cons.inj heq
          exact absurd hfirst (hbefore _ List.mem_cons_self)
    | some v =>
      -- The first section is readable, so the failure is one of the rest.
      have hrest : sectionEntries bindings ((first, shape) :: rest) = .error name ↔
          sectionEntries bindings rest = .error name := by
        rw [sectionEntries, hfirst]
        cases sectionEntries bindings rest <;> cases v <;> simp
      rw [hrest, ih]
      constructor
      · rintro ⟨before, shape', after, rfl, hnone, hbefore⟩
        refine ⟨(first, shape) :: before, shape', after, rfl, hnone, ?_⟩
        rw [List.forall_mem_cons]
        exact ⟨by simp [hfirst], hbefore⟩
      · rintro ⟨before, shape', after, heq, hnone, hbefore⟩
        cases before with
        | nil =>
          obtain ⟨⟨rfl, rfl⟩, -⟩ := List.cons.inj heq
          rw [hfirst] at hnone
          cases hnone
        | cons b before =>
          obtain ⟨rfl, rfl⟩ := List.cons.inj heq
          exact ⟨before, shape', after, rfl, hnone, fun e he =>
            hbefore e (List.mem_cons_of_mem _ he)⟩

theorem entries_eq_error_iff :
    entries bindings = .error name ↔ FirstUnreadable (lowered bindings) sections name := by
  rw [← sectionEntries_eq_error_iff, entries]
  cases sectionEntries (lowered bindings) sections with
  | error e => exact Iff.rfl
  | ok es => exact ⟨nofun, nofun⟩

end Environment

/-! ## The file of a call -/

namespace Settings

variable {h : Host} {named : Option String} {start : Option Path} {flags : List (String × Value)}
  {e : LoadError} {path : Path}

theorem expand_eq_error_iff {p : Path} :
    expand h p = .error e ↔ p.LacksHome h.home ∧ e = .noHome := by
  rw [← Path.expandHome_eq_none_iff, expand]
  cases p.expandHome h.home <;> simp [eq_comm]

/-- The name of the file, if the call or the environment gives one. -/
def givenName (h : Host) (named : Option String) : Option String :=
  (named.filter (· != "")).or ((h.valueOf? fileVariable).filter (· != ""))

theorem locateFile_eq_error_iff : locateFile h named start = .error e ↔
    (∃ s, givenName h named = some s ∧ (Path.ofString s).LacksHome h.home ∧ e = .noHome) ∨
      ∃ s p, named.filter (· != "") = some s ∧ expand h (Path.ofString s) = .ok p ∧
        h.isFile p = false ∧ e = .fileNotFound p := by
  unfold locateFile givenName
  cases hnamed : named.filter (· != "") with
  | some s =>
    cases hexpand : expand h (Path.ofString s) with
    | error e' =>
      obtain ⟨hlacks, rfl⟩ := expand_eq_error_iff.mp hexpand
      simp [hexpand, hlacks, eq_comm (b := e)]
    | ok p =>
      have hhome : ¬ (Path.ofString s).LacksHome h.home := fun hlacks => by
        rw [expand_eq_error_iff.mpr ⟨hlacks, rfl⟩] at hexpand
        cases hexpand
      cases hfile : h.isFile p <;> simp [hexpand, hhome, hfile, eq_comm (b := e)]
  | none =>
    cases hvariable : (h.valueOf? fileVariable).filter (· != "") with
    | none => simp [findFile, hvariable]
    | some s =>
      cases hexpand : expand h (Path.ofString s) with
      | error e' =>
        obtain ⟨hlacks, rfl⟩ := expand_eq_error_iff.mp hexpand
        simp [findFile, hvariable, hexpand, hlacks, eq_comm (b := e)]
      | ok p =>
        have hhome : ¬ (Path.ofString s).LacksHome h.home := fun hlacks => by
          rw [expand_eq_error_iff.mpr ⟨hlacks, rfl⟩] at hexpand
          cases hexpand
        simp [findFile, hvariable, hexpand, hhome]

theorem isFile_of_findFile (hfound : findFile h start = .ok (some path)) : h.isFile path := by
  unfold findFile at hfound
  split at hfound
  · split at hfound
    · rename_i p _
      cases hfile : h.isFile p <;> simp [hfile] at hfound
      exact hfound ▸ hfile
    · cases hfound
  · have hnearest := Except.ok.inj hfound
    obtain ⟨directory, -, hin⟩ := List.exists_of_findSome?_eq_some hnearest
    simp only [fileIn?] at hin
    split at hin
    · rename_i hfile
      exact Option.some.inj hin ▸ hfile
    · cases hin

/-- The file that a call reads is there. -/
theorem isFile_of_locateFile (hlocated : locateFile h named start = .ok (some path)) :
    h.isFile path := by
  unfold locateFile at hlocated
  split at hlocated
  · split at hlocated
    · rename_i p _
      cases hfile : h.isFile p <;> simp [hfile] at hlocated
      exact hlocated ▸ hfile
    · cases hlocated
  · exact isFile_of_findFile hlocated

theorem exists_bytes_of_isFile (hfile : h.isFile path) : ∃ bytes, h.find path = .ok (.file bytes) := by
  unfold Host.isFile at hfile
  split at hfile
  · rename_i t hfind
    cases t with
    | file bytes => exact ⟨bytes, hfind⟩
    | directory entries => cases hfile
  · cases hfile

/-- A file that is there cannot be read if it is no UTF-8, no TOML, or has too long an integer. -/
theorem fileEntries_eq_error_iff {bytes : List UInt8} (hfind : h.find path = .ok (.file bytes)) :
    fileEntries h (some path) = .error e ↔
      (∃ f, Utf8.decode bytes = .error f ∧ e = .unreadableFile path (.encoding f)) ∨
      ∃ text, Utf8.decode bytes = .ok text ∧
        ((Toml.parse (Utf8.joinNewlines text) = .error .malformed ∧ e = .malformedFile path) ∨
          ∃ digits, Toml.parse (Utf8.joinNewlines text) = .error (.hugeInteger digits) ∧
            e = .hugeInteger digits) := by
  cases hdecode : Utf8.decode bytes with
  | error f => simp [fileEntries, Host.readText, hfind, hdecode, eq_comm]
  | ok text =>
    cases hparse : Toml.parse (Utf8.joinNewlines text) with
    | ok entries => simp [fileEntries, Host.readText, hfind, hdecode, hparse]
    | error e' =>
      cases e' <;> simp [fileEntries, Host.readText, hfind, hdecode, hparse, eq_comm]

theorem exists_bytes_of_locateFile (hlocated : locateFile h named start = .ok (some path)) :
    ∃ bytes, h.find path = .ok (.file bytes) :=
  exists_bytes_of_isFile (isFile_of_locateFile hlocated)

/-! ## What a call reads -/

/-- A call reads the file at `path`, if there is one, and the environment; with its flags they make
the `entries` that are checked. -/
inductive Reads (h : Host) (named : Option String) (start : Option Path)
    (flags : List (String × Value)) : Option Path → List (String × Value) → Prop
  | intro {path : Option Path} {file environment : List (String × Value)}
      (located : locateFile h named start = .ok path) (read : fileEntries h path = .ok file)
      (values : Environment.entries h.environment = .ok environment) :
      Reads h named start flags path (sourceEntries file environment (flagEntries path flags))

theorem expandedHome_eq_error_iff {entries : List (String × Value)} :
    expandedHome h entries = .error e ↔ ∃ s, Value.lookup? "home" entries = some (.text s) ∧
      (Path.ofString s).LacksHome h.home ∧ e = .noHome := by
  unfold expandedHome
  split
  · rename_i s hs
    cases hexpand : expand h (Path.ofString s) with
    | error e' =>
      obtain ⟨hlacks, rfl⟩ := expand_eq_error_iff.mp hexpand
      simp [Except.map, hs, hlacks, eq_comm (b := e)]
    | ok p =>
      have hhome : ¬ (Path.ofString s).LacksHome h.home := fun hlacks => by
        rw [expand_eq_error_iff.mpr ⟨hlacks, rfl⟩] at hexpand
        cases hexpand
      simp [Except.map, hs, hhome]
  · rename_i hother
    refine ⟨nofun, ?_⟩
    rintro ⟨s, hs, -⟩
    exact absurd hs (hother s)

/-- Where refused settings come from, as it is reported. -/
def sourceName (path : Option Path) : String := path.elim "environment" Path.toString

theorem checked_eq_error_iff {path : Option Path} {entries : List (String × Value)} :
    checked h path entries = .error e ↔
      (∃ s, Value.lookup? "home" entries = some (.text s) ∧
        (Path.ofString s).LacksHome h.home ∧ e = .noHome) ∨
      ∃ home r, expandedHome h entries = .ok home ∧ ofEntries entries = .error r ∧
        e = .rejected (sourceName path) r := by
  rw [← expandedHome_eq_error_iff]
  unfold checked
  cases expandedHome h entries with
  | error e' => simp
  | ok home =>
    cases ofEntries entries with
    | ok s => simp
    | error r => cases path <;> simp [sourceName, eq_comm (b := e)]

theorem load_eq_error_iff : load h named start flags = .error e ↔
    locateFile h named start = .error e ∨
    (∃ path, locateFile h named start = .ok path ∧ fileEntries h path = .error e) ∨
    (∃ path file setting, locateFile h named start = .ok path ∧ fileEntries h path = .ok file ∧
      Environment.entries h.environment = .error setting ∧ e = .unreadableVariable setting) ∨
    ∃ path entries, Reads h named start flags path entries ∧ checked h path entries = .error e := by
  unfold load
  cases hlocated : locateFile h named start with
  | error e' =>
    have hreads : ∀ path entries, ¬ Reads h named start flags path entries := by
      rintro _ _ ⟨located, -, -⟩
      rw [hlocated] at located
      cases located
    simp [hreads]
  | ok path =>
    cases hread : fileEntries h path with
    | error e' =>
      have hreads : ∀ path entries, ¬ Reads h named start flags path entries := by
        rintro _ _ ⟨located, read, -⟩
        rw [hlocated] at located
        cases located
        rw [hread] at read
        cases read
      simp [hread, hreads]
    | ok file =>
      cases hvalues : Environment.entries h.environment with
      | error setting =>
        have hreads : ∀ path entries, ¬ Reads h named start flags path entries := by
          rintro _ _ ⟨-, -, values⟩
          rw [hvalues] at values
          cases values
        simp [hread, hreads, eq_comm (b := e)]
      | ok environment =>
        have hreads : ∀ path' entries, Reads h named start flags path' entries ↔
            path' = path ∧
              entries = sourceEntries file environment (flagEntries path flags) := by
          intro path' entries
          constructor
          · rintro ⟨located, read, values⟩
            rw [hlocated] at located
            cases located
            rw [hread] at read
            cases read
            rw [hvalues] at values
            cases values
            exact ⟨rfl, rfl⟩
          · rintro ⟨rfl, rfl⟩
            exact ⟨hlocated, hread, hvalues⟩
        simp [hread, hreads, and_assoc]

/-! ## Failures -/

/-- The failures that are reported as failures of the configuration. -/
inductive Reported (h : Host) (named : Option String) (start : Option Path)
    (flags : List (String × Value)) : LoadError → Prop
  | missing {s : String} {path : Path} (given : named.filter (· != "") = some s)
      (expanded : expand h (Path.ofString s) = .ok path) (notFile : h.isFile path = false) :
      Reported h named start flags (.fileNotFound path)
  | malformed {path : Path} {bytes : List UInt8} {text : List Char}
      (located : locateFile h named start = .ok (some path))
      (found : h.find path = .ok (.file bytes)) (decoded : Utf8.decode bytes = .ok text)
      (parsed : Toml.parse (Utf8.joinNewlines text) = .error .malformed) :
      Reported h named start flags (.malformedFile path)
  | refused {path : Option Path} {entries : List (String × Value)} {home : Option Path}
      {r : Rejection} (reads : Reads h named start flags path entries)
      (expanded : expandedHome h entries = .ok home) (refused : ofEntries entries = .error r) :
      Reported h named start flags (.rejected (sourceName path) r)

/-- The failures that are let through as they are. -/
inductive Escapes (h : Host) (named : Option String) (start : Option Path)
    (flags : List (String × Value)) : LoadError → Prop
  | fileHome {s : String} (given : givenName h named = some s)
      (lacks : (Path.ofString s).LacksHome h.home) : Escapes h named start flags .noHome
  | encoding {path : Path} {bytes : List UInt8} {f : Utf8.Fault}
      (located : locateFile h named start = .ok (some path))
      (found : h.find path = .ok (.file bytes)) (decoded : Utf8.decode bytes = .error f) :
      Escapes h named start flags (.unreadableFile path (.encoding f))
  | digits {path : Path} {bytes : List UInt8} {text : List Char} {n : Nat}
      (located : locateFile h named start = .ok (some path))
      (found : h.find path = .ok (.file bytes)) (decoded : Utf8.decode bytes = .ok text)
      (parsed : Toml.parse (Utf8.joinNewlines text) = .error (.hugeInteger n)) :
      Escapes h named start flags (.hugeInteger n)
  | environment {path : Option Path} {file : List (String × Value)} {setting : String}
      (located : locateFile h named start = .ok path) (read : fileEntries h path = .ok file)
      (unreadable : Environment.FirstUnreadable (Environment.lowered h.environment)
        Environment.sections setting) :
      Escapes h named start flags (.unreadableVariable setting)
  | home {path : Option Path} {entries : List (String × Value)} {s : String}
      (reads : Reads h named start flags path entries)
      (home : Value.lookup? "home" entries = some (.text s))
      (lacks : (Path.ofString s).LacksHome h.home) : Escapes h named start flags .noHome

theorem Reported.isConfiguration (hreported : Reported h named start flags e) :
    e.isConfiguration = true := by
  cases hreported <;> rfl

theorem Escapes.isConfiguration (hescapes : Escapes h named start flags e) :
    e.isConfiguration = false := by
  cases hescapes <;> rfl

theorem Reported.load (hreported : Reported h named start flags e) :
    load h named start flags = .error e := by
  rw [load_eq_error_iff]
  cases hreported with
  | missing given expanded notFile =>
    exact Or.inl (locateFile_eq_error_iff.mpr (Or.inr ⟨_, _, given, expanded, notFile, rfl⟩))
  | malformed located found decoded parsed =>
    have herror := (fileEntries_eq_error_iff found).mpr
      (Or.inr ⟨_, decoded, Or.inl ⟨parsed, rfl⟩⟩)
    exact Or.inr (Or.inl ⟨_, located, herror⟩)
  | @refused path entries home r reads expanded refused =>
    have herror : checked h path entries = .error (.rejected (sourceName path) r) :=
      checked_eq_error_iff.mpr (Or.inr ⟨home, r, expanded, refused, rfl⟩)
    exact Or.inr (Or.inr (Or.inr ⟨_, _, reads, herror⟩))

theorem Escapes.load (hescapes : Escapes h named start flags e) :
    load h named start flags = .error e := by
  rw [load_eq_error_iff]
  cases hescapes with
  | fileHome given lacks =>
    exact Or.inl (locateFile_eq_error_iff.mpr (Or.inl ⟨_, given, lacks, rfl⟩))
  | encoding located found decoded =>
    have herror := (fileEntries_eq_error_iff found).mpr (Or.inl ⟨_, decoded, rfl⟩)
    exact Or.inr (Or.inl ⟨_, located, herror⟩)
  | digits located found decoded parsed =>
    have herror := (fileEntries_eq_error_iff found).mpr
      (Or.inr ⟨_, decoded, Or.inr ⟨_, parsed, rfl⟩⟩)
    exact Or.inr (Or.inl ⟨_, located, herror⟩)
  | environment located read unreadable =>
    have herror := Environment.entries_eq_error_iff.mpr unreadable
    exact Or.inr (Or.inr (Or.inl ⟨_, _, _, located, read, herror, rfl⟩))
  | @home path entries s reads home lacks =>
    have herror : checked h path entries = .error .noHome :=
      checked_eq_error_iff.mpr (Or.inl ⟨s, home, lacks, rfl⟩)
    exact Or.inr (Or.inr (Or.inr ⟨_, _, reads, herror⟩))

/-- Every failure is of one of the two kinds. -/
theorem reported_or_escapes_of_load (hload : load h named start flags = .error e) :
    Reported h named start flags e ∨ Escapes h named start flags e := by
  rcases load_eq_error_iff.mp hload with hlocate | ⟨path, hlocated, hread⟩ |
    ⟨path, file, setting, hlocated, hread, hsetting, rfl⟩ | ⟨path, entries, hreads, hchecked⟩
  · rcases locateFile_eq_error_iff.mp hlocate with ⟨s, hgiven, hlacks, rfl⟩ |
      ⟨s, p, hgiven, hexpand, hfile, rfl⟩
    · exact Or.inr (.fileHome hgiven hlacks)
    · exact Or.inl (.missing hgiven hexpand hfile)
  · cases path with
    | none => cases hread
    | some path =>
      obtain ⟨bytes, hfind⟩ := exists_bytes_of_locateFile hlocated
      rcases (fileEntries_eq_error_iff hfind).mp hread with ⟨f, hdecode, rfl⟩ |
        ⟨text, hdecode, ⟨hparse, rfl⟩ | ⟨digits, hparse, rfl⟩⟩
      · exact Or.inr (.encoding hlocated hfind hdecode)
      · exact Or.inl (.malformed hlocated hfind hdecode hparse)
      · exact Or.inr (.digits hlocated hfind hdecode hparse)
  · exact Or.inr (.environment hlocated hread (Environment.entries_eq_error_iff.mp hsetting))
  · rcases checked_eq_error_iff.mp hchecked with ⟨s, hhome, hlacks, rfl⟩ |
      ⟨home, r, hexpand, hrefused, rfl⟩
    · exact Or.inr (.home hreads hhome hlacks)
    · exact Or.inl (.refused hreads hexpand hrefused)

/-- Loading can fail without a report: for a file that is no UTF-8, for a section in the environment
that is no JSON, and for the home of an unknown account. -/
theorem not_isConfiguration_of_load :
    let withFile : Host := ⟨.directory [("mdviews.toml", .file [0xff])], [], [], []⟩
    let withVariable : Host := ⟨.directory [], [], [("MDVIEWS_SCAN", "bad")], []⟩
    let withHome : Host := ⟨.directory [], [], [("MDVIEWS_HOME", "~ghost")], []⟩
    load withFile none none [] =
        .error (.unreadableFile ⟨.slash, ["mdviews.toml"]⟩ (.encoding ⟨0, 1, 0xff, .badStart⟩)) ∧
      load withVariable none none [] = .error (.unreadableVariable "scan") ∧
      load withHome none none [] = .error .noHome ∧
      ¬ ∀ h named start flags e, load h named start flags = .error e → e.isConfiguration = true := by
  intro withFile withVariable withHome
  have hfile : load withFile none none [] =
      .error (.unreadableFile ⟨.slash, ["mdviews.toml"]⟩ (.encoding ⟨0, 1, 0xff, .badStart⟩)) := rfl
  refine ⟨hfile, rfl, rfl, fun hall => ?_⟩
  have hreported := hall _ _ _ _ _ hfile
  cases hreported

/-- What a call without settings fails with, and whether that is reported. The nesting of tables and
lists and the lengths of names are not bounded here, so that a reader that runs out of stack and an
operating system that refuses a name are none of the failures. -/
theorem load_fails_iff :
    ((load h named start flags = .error e ∧ e.isConfiguration = true) ↔
      Reported h named start flags e) ∧
    ((load h named start flags = .error e ∧ e.isConfiguration = false) ↔
      Escapes h named start flags e) := by
  refine ⟨⟨?_, fun hreported => ⟨hreported.load, hreported.isConfiguration⟩⟩,
    ⟨?_, fun hescapes => ⟨hescapes.load, hescapes.isConfiguration⟩⟩⟩
  · rintro ⟨hload, hconfiguration⟩
    rcases reported_or_escapes_of_load hload with hreported | hescapes
    · exact hreported
    · rw [hescapes.isConfiguration] at hconfiguration
      cases hconfiguration
  · rintro ⟨hload, hconfiguration⟩
    rcases reported_or_escapes_of_load hload with hreported | hescapes
    · rw [hreported.isConfiguration] at hconfiguration
      cases hconfiguration
    · exact hescapes

end Settings

end NoteQuery
