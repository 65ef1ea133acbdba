import Mathlib.Data.List.Perm.Subperm
import NoteQuery.Proofs.Note.Rows
import NoteQuery.Proofs.Query.Running
import NoteQuery.Proofs.Vault.ScannedNotes
import NoteQuery.Report.PipeTable
import NoteQuery.Vault.Operations

/-!
# What the columns of a view show

The rows of a view that runs stand for documents of the scan, no two rows for one document. A view
with fields shows the projection of the document under each of its columns, so that titles, names
and paths are there. A view without fields shows the documents as they are: what it shows under
`title`, `name` and `path` are fields of the document, which may be missing.

* `Query.exists_found_of_run`, `Vault.exists_found_of_runView`: the documents behind the rows.
* `View.shows_row`: what one row shows.
* `Vault.not_viewShows_projections`, `Vault.viewShows`: the columns of a view.
-/

namespace NoteQuery

/-! ## Rows -/

/-- The value of a row under a name; a name without a value counts as null. -/
def valueUnder (row : OrderedMap Value) (name : String) : Value := Value.orNull (row.get? name)

theorem valueUnder_row {name : String} (h : name ≠ "_file") (r : Record) :
    valueUnder r.row name = (r.get name).plain := by
  rw [valueUnder, Record.get?_row h, Record.get]
  cases r.get? name <;> rfl

/-! ## The documents behind the rows -/

/-- The rows of a query are views of the records that it is given, no two of one record. -/
theorem Query.exists_found_of_run {q : Query} {records rows : List Record}
    (h : q.run records = .ok rows) :
    ∃ found : List Record, found.Subperm records ∧ rows = found.map (Stage.view q.fields) := by
  have hsub : (q.kept records).Sublist records := List.filter_sublist
  have hsorted := (Stage.sorted_perm q.sort (q.kept records)).subperm.trans hsub.subperm
  exact ⟨Stage.limit q.limit (Stage.sorted q.sort (q.kept records)),
    (Stage.limit_sublist _ _).subperm.trans hsorted, (run_eq_ok_iff.mp h).2.2⟩

namespace View

variable {v : View}

/-- The view asks for fields of the documents. -/
def HasFields (v : View) : Prop := v.fields.getD [] ≠ []

/-- The view shows no columns but those that it has asked for. -/
def DisplaysOwnFields (v : View) : Prop := ∀ c ∈ v.displayFields.getD [], c ∈ v.fields.getD []

theorem fields_of_toQuery {q : Query} (h : v.toQuery = .ok q) : q.fields = v.fields := by
  unfold toQuery at h
  split at h
  · cases h
    rfl
  · cases h

theorem columns_eq (v : View) : v.columns =
    if v.displayFields.getD [] ≠ [] then v.displayFields.getD []
    else if v.fields.getD [] ≠ [] then v.fields.getD [] else defaultFields := by
  unfold columns
  match v.displayFields, v.fields with
  | some (_ :: _), _ => rfl
  | none, none | none, some [] | none, some (_ :: _) => rfl
  | some [], none | some [], some [] | some [], some (_ :: _) => rfl

theorem columns_ne_nil (v : View) : v.columns ≠ [] := by
  rw [columns_eq]
  split
  · assumption
  · split
    · assumption
    · exact List.cons_ne_nil _ _

theorem mem_fields_of_mem_columns (hfields : v.HasFields) (hdisplay : v.DisplaysOwnFields)
    {c : String} (hc : c ∈ v.columns) : c ∈ v.fields.getD [] := by
  rw [columns_eq] at hc
  split at hc
  · exact hdisplay c hc
  · split at hc
    · exact hc
    · exact absurd hfields ‹_›

theorem view_of_hasFields (h : v.HasFields) (r : Record) :
    Stage.view v.fields r = Stage.project (v.fields.getD []) r := by
  obtain ⟨names, hnames⟩ : ∃ names, v.fields = some names :=
    Option.ne_none_iff_exists'.mp fun hnone => h (by rw [hnone]; rfl)
  rw [HasFields, hnames] at h
  rw [hnames]
  exact Stage.view_of_ne_nil h r

theorem view_of_not_hasFields (h : ¬ v.HasFields) (r : Record) : Stage.view v.fields r = r := by
  rw [HasFields, not_not] at h
  match hnames : v.fields with
  | none => rfl
  | some [] => rfl
  | some (name :: names) => rw [hnames] at h; cases h

/-! ## What one row shows -/

/-- What the row of a view shows of a document. -/
structure Shows (v : View) (r : Record) (row : OrderedMap Value) : Prop where
  file : row.get? "_file" = some r.file.toValue
  /-- A column shows the projection, if the view has fields or the column is no part of the
  identity of the file. -/
  projected : ∀ c ∈ v.columns, c ≠ "_file" → v.HasFields ∨ c ∉ Stage.identityNames →
    valueUnder row c = (Stage.projected r c).plain
  /-- With fields, a part of the identity is blank only if it is the title of a file named `.md`. -/
  present : v.HasFields → ∀ c ∈ v.columns, c ∈ Stage.identityNames → PipeTable.cell row c = [] →
    c = "title" ∧ r.file.name = some ".md"
  /-- Without fields, a column shows the field of the document. -/
  unprojected : ¬ v.HasFields → ∀ c ∈ v.columns, c ≠ "_file" →
    valueUnder row c = (r.get c).plain

/-- What the row of a view would show if every column were a projection. -/
structure ShowsProjections (v : View) (r : Record) (row : OrderedMap Value) : Prop where
  projected : ∀ c ∈ v.columns, valueUnder row c = (Stage.projected r c).plain
  present : ∀ c ∈ v.columns, c ∈ Stage.identityNames → PipeTable.cell row c ≠ []

theorem cell_of_valueUnder {row : OrderedMap Value} {c s : String}
    (h : valueUnder row c = .text s) : PipeTable.cell row c = s.toList := by
  rw [valueUnder] at h
  rw [PipeTable.cell, h]
  rfl

/-- The row of a note, as a view shows it. -/
theorem shows_row {r : Record} (hnote : r.file.IsNote) (hdisplay : v.DisplaysOwnFields) :
    v.Shows r (Stage.view v.fields r).row := by
  have hprojected : v.HasFields → ∀ c ∈ v.columns, c ≠ "_file" →
      valueUnder (Stage.view v.fields r).row c = (Stage.projected r c).plain := by
    intro hfields c hc hne
    rw [valueUnder_row hne, view_of_hasFields hfields,
      Stage.get_project_of_mem (mem_fields_of_mem_columns hfields hdisplay hc)]
  have hunprojected : ¬ v.HasFields → ∀ c ∈ v.columns, c ≠ "_file" →
      valueUnder (Stage.view v.fields r).row c = (r.get c).plain := by
    intro hfields c _ hne
    rw [valueUnder_row hne, view_of_not_hasFields hfields]
  refine ⟨?_, ?_, ?_, hunprojected⟩
  · rw [Record.get?_row_file, Stage.view_file]
  · intro c hc hne hcase
    by_cases hfields : v.HasFields
    · exact hprojected hfields c hc hne
    · have hname := hcase.resolve_left hfields
      rw [hunprojected hfields c hc hne, Stage.projected_of_notMem hname]
  · intro hfields c hc hname hblank
    have hne : c ≠ "_file" := fun h => absurd (h ▸ hname) (by decide)
    obtain ⟨s, hreserved, hempty⟩ := hnote.reserved hname
    have hvalue : valueUnder (Stage.view v.fields r).row c = .text s := by
      rw [hprojected hfields c hc hne, Stage.projected, hreserved]
      rfl
    rw [cell_of_valueUnder hvalue] at hblank
    exact hempty (String.toList_eq_nil_iff.mp hblank)

end View

/-! ## Views that run -/

namespace Vault

variable {h : Host} {s : Settings} {name : String} {display : Option DisplayMode}

theorem exists_found_of_ask {r : Request} {o : Outcome} {events : List Event}
    (hask : ask h s r = .ok ⟨o, events⟩) (hok : o.ok = true) :
    ∃ dir found, directory h s r.source = some dir ∧
      r.query.run (Scan.run h dir s.scan.recursive).value.records = .ok found ∧
      o.data = answerData s r dir found := by
  unfold ask at hask
  split at hask
  · cases hask
  · rename_i dir hdir
    split at hask
    · cases hask
      cases hok
    · dsimp only at hask
      split at hask
      · cases hask
      · rename_i found hfound
        cases hask
        exact ⟨dir, found, hdir, hfound, rfl⟩

theorem op_of_ask {r : Request} {o : Outcome} {events : List Event}
    (hask : ask h s r = .ok ⟨o, events⟩) : o.op = r.op := by
  unfold ask at hask
  split at hask
  · cases hask
  · split at hask
    · cases hask
      rfl
    · dsimp only at hask
      split at hask
      · cases hask
      · cases hask
        rfl

theorem directory_of_source {source : String} (hne : source ≠ "") :
    directory h s (some source) = resolveSource h s.home source := by
  have hsome : (some source).filter (· != "") = some source := by simpa using hne
  rw [directory, hsome]

theorem columns_of_view (s : Settings) (v : View) {r : Request} (h : r.columns = some v.columns) :
    columns s r = v.columns := by
  have hsome : View.someFields (some v.columns) = some v.columns := by
    simpa [View.someFields] using v.columns_ne_nil
  rw [columns, h, hsome]
  rfl

/-- The data of a view that runs: the columns of the view, and for documents of the scan, no two of
them the same, the rows of their views. -/
theorem exists_found_of_runView {o : Outcome} {events : List Event}
    (hrun : runView h s name display = .ok ⟨o, events⟩) (hok : o.ok = true) :
    ∃ view source dir, ∃ found : List Record, s.views.get? name = some view ∧
      view.source = some source ∧ resolveSource h s.home source = some dir ∧
      found.Subperm (Scan.run h dir s.scan.recursive).value.records ∧
      Value.lookup? "columns" o.data = some (.list (view.columns.map .text)) ∧
      Value.lookup? "items" o.data =
        some (.list (found.map fun r => .table (Stage.view view.fields r).row.entries)) := by
  unfold runView at hrun
  split at hrun
  · cases hrun
    cases hok
  · rename_i view hview
    split at hrun
    · cases hrun
      cases hok
    · rename_i source hsource
      obtain ⟨hsource, hne⟩ := Option.filter_eq_some_iff.mp hsource
      split at hrun
      · cases hrun
        cases hok
      · rename_i q hq
        obtain ⟨dir, rows, hdir, hrows, hdata⟩ := exists_found_of_ask hrun hok
        rw [directory_of_source (by simpa using hne)] at hdir
        obtain ⟨found, hfound, rfl⟩ := Query.exists_found_of_run hrows
        refine ⟨view, source, dir, found, hview, hsource, hdir, hfound, ?_, ?_⟩
        · rw [hdata, answerData, columns_of_view s view rfl]
          rfl
        · rw [hdata, answerData, View.fields_of_toQuery hq, List.map_map]
          rfl

/-- If the view of a name runs, its rows show documents of the scan, no two rows one document. -/
def ViewShows (h : Host) (s : Settings) (name : String) (display : Option DisplayMode)
    (Shows : View → Record → OrderedMap Value → Prop) : Prop :=
  ∀ o events, runView h s name display = .ok ⟨o, events⟩ → o.ok = true →
    ∃ view source dir, ∃ found : List Record, ∃ rows : List (OrderedMap Value),
      s.views.get? name = some view ∧ view.source = some source ∧
      resolveSource h s.home source = some dir ∧
      found.Subperm (Scan.run h dir s.scan.recursive).value.records ∧
      Value.lookup? "columns" o.data = some (.list (view.columns.map .text)) ∧
      Value.lookup? "items" o.data = some (.list (rows.map fun row => .table row.entries)) ∧
      List.Forall₂ (Shows view) found rows

/-- The row of the only document of a scan. -/
theorem ViewShows.of_single {Shows : View → Record → OrderedMap Value → Prop}
    (hshows : ViewShows h s name display Shows) {view : View} {source : String} {dir : Path}
    {q : Query} {r row : Record} (hview : s.views.get? name = some view)
    (hsource : view.source = some source) (hne : source ≠ "")
    (hdir : resolveSource h s.home source = some dir) (hisDirectory : h.isDirectory dir)
    (hscan : (Scan.run h dir s.scan.recursive).value.records = [r])
    (hq : view.toQuery = .ok q) (hrun : q.run [r] = .ok [row]) : Shows view r row.row := by
  have hfilter : view.source.filter (· != "") = some source := by
    rw [hsource]
    simpa using hne
  -- The view runs, so it has an outcome to which the hypothesis applies.
  obtain ⟨o, events, houtcome, hok, hdata⟩ : ∃ o events,
      runView h s name display = .ok ⟨o, events⟩ ∧ o.ok = true ∧
        Value.lookup? "items" o.data = some (.list [.table row.row.entries]) := by
    simp only [runView, hview, hfilter, hq, ask, directory_of_source hne, hdir, hisDirectory,
      Bool.not_true, Bool.false_eq_true, if_false, hscan, hrun]
    exact ⟨_, _, rfl, rfl, rfl⟩
  obtain ⟨view', source', dir', found, rows, hview', hsource', hdir', hfound, -, hitems, hrows⟩ :=
    hshows o events houtcome hok
  obtain rfl : view = view' := Option.some.inj (hview.symm.trans hview')
  obtain rfl : source = source' := Option.some.inj (hsource.symm.trans hsource')
  obtain rfl : dir = dir' := Option.some.inj (hdir.symm.trans hdir')
  have htables : rows.map (fun row => Value.table row.entries) = [.table row.row.entries] := by
    rw [hdata] at hitems
    simpa using hitems.symm
  obtain ⟨row', rfl, hentries⟩ := List.map_eq_singleton_iff.mp htables
  obtain rfl : row' = row.row := OrderedMap.ext (Value.table.inj hentries)
  obtain ⟨r', _, hr', hnil, rfl⟩ := List.forall₂_cons_right_iff.mp hrows
  obtain rfl := List.forall₂_nil_right_iff.mp hnil
  have hmem : r' ∈ (Scan.run h dir s.scan.recursive).value.records :=
    hfound.subset List.mem_cons_self
  rw [hscan, List.mem_singleton] at hmem
  rwa [hmem] at hr'

/-- A view need not show projections: without fields a note without a title has a blank title, the
identity of the file stands under `_file`, and the title of a file named `.md` is blank. -/
theorem not_viewShows_projections :
    let h : Host :=
      { tree := .directory [("n", .directory [("a.md", .file [])]),
          ("m", .directory [(".md", .file [])])]
        workingDirectory := []
        environment := []
        homes := [] }
    let s : Settings := { views := .ofList [("all", { source := some "n" }),
      ("files", { source := some "n", fields := some ["_file"] }),
      ("titles", { source := some "m", fields := some ["title"] })] }
    ∀ name ∈ ["all", "files", "titles"],
      (∃ view, s.views.get? name = some view ∧ view.displayFields = none) ∧
        ¬ ViewShows h s name none View.ShowsProjections := by
  intro h s
  have hn : ∀ recursive, (Scan.run h ⟨.relative, ["n"]⟩ recursive).value.records =
      [⟨.ofPath "n/a.md", .empty⟩] := fun recursive => by
    rw [Scan.run_singleton rfl (by decide)]
    rfl
  have hm : ∀ recursive, (Scan.run h ⟨.relative, ["m"]⟩ recursive).value.records =
      [⟨.ofPath "m/.md", .empty⟩] := fun recursive => by
    rw [Scan.run_singleton rfl (by decide)]
    rfl
  simp only [List.forall_mem_cons, List.not_mem_nil, false_imp_iff, implies_true, and_true]
  refine ⟨⟨⟨_, rfl, rfl⟩, fun hshows => ?_⟩, ⟨⟨_, rfl, rfl⟩, fun hshows => ?_⟩,
    ⟨_, rfl, rfl⟩, fun hshows => ?_⟩
  · -- The note has no field `title`, but its file has a title.
    have hrow := hshows.of_single rfl rfl (by decide) rfl rfl (hn _) rfl rfl
    have htitle : Value.null = .text "a" := hrow.projected "title" (by decide)
    cases htitle
  · have hrow := hshows.of_single rfl rfl (by decide) rfl rfl (hn _) rfl rfl
    have hfile : FileIdentity.toValue (.ofPath "n/a.md") = .null :=
      hrow.projected "_file" (by decide)
    cases hfile
  · have hrow := hshows.of_single rfl rfl (by decide) rfl rfl (hm _) rfl rfl
    exact hrow.present "title" (by decide) (by decide) rfl

/-- The rows of a view show documents of its scan. -/
theorem viewShows (hdisplay : ∀ view, s.views.get? name = some view → view.DisplaysOwnFields) :
    ViewShows h s name display View.Shows := by
  intro o events hrun hok
  obtain ⟨view, source, dir, found, hview, hsource, hdir, hfound, hcolumns, hitems⟩ :=
    exists_found_of_runView hrun hok
  refine ⟨view, source, dir, found, found.map fun r => (Stage.view view.fields r).row, hview,
    hsource, hdir, hfound, hcolumns, ?_, ?_⟩
  · rw [hitems, List.map_map]
    rfl
  · rw [List.forall₂_map_right_iff, List.forall₂_same]
    intro r hr
    exact View.shows_row (Scan.isNote_of_mem_records (hfound.subset hr)) (hdisplay view hview)

/-- A view shows the title of the file, not the one in the note, and dates by their literals. -/
theorem viewShows_of_titles :
    let bytes := "---\ntitle: B\nstart: 2024-01-02\n---\n".toList.map fun c => c.toNat.toUInt8
    let h : Host :=
      { tree := .directory [("n", .directory [("a.md", .file bytes)])]
        workingDirectory := []
        environment := []
        homes := [] }
    let view : View := { source := some "n", fields := some ["title", "start"] }
    let s : Settings := { views := .ofList [("titles", view)] }
    let r : Record := ⟨.ofPath "n/a.md",
      .ofList [("title", .text "B"), ("start", .date ⟨2024, 1, 2, "2024-01-02"⟩)]⟩
    let row := (Stage.view view.fields r).row
    (∀ v, s.views.get? "titles" = some v → v.DisplaysOwnFields) ∧
      (Scan.run h ⟨.relative, ["n"]⟩ true).value.records = [r] ∧ view.Shows r row ∧
      valueUnder row "title" = .text "a" ∧ valueUnder row "start" = .text "2024-01-02" := by
  intro bytes h view s r row
  have hdisplay : ∀ v, s.views.get? "titles" = some v → v.DisplaysOwnFields := by
    intro v hv
    obtain rfl : view = v := Option.some.inj hv
    intro c hc
    cases hc
  have hscan : (Scan.run h ⟨.relative, ["n"]⟩ true).value.records = [r] := by
    rw [Scan.run_singleton rfl (by decide)]
    rfl
  have hshows : ViewShows h s "titles" none View.Shows := viewShows hdisplay
  have hrow : view.Shows r row := hshows.of_single rfl rfl (by decide) rfl rfl hscan rfl rfl
  have hfields : view.HasFields := List.cons_ne_nil "title" ["start"]
  refine ⟨hdisplay, hscan, hrow, ?_, ?_⟩
  · exact hrow.projected "title" (by decide) (by decide) (Or.inl hfields)
  · exact hrow.projected "start" (by decide) (by decide) (Or.inl hfields)

end Vault

end NoteQuery
