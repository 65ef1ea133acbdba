import Mathlib.Data.List.Induction
import NoteQuery.OrderedMap

/-!
# Ordered maps from lists of entries

What a map made of a list of entries holds: every name once, in the order of the first entries with
the names, and under each name the value of its last entry.

* `keys_ofList`, `get?_ofList_eq_some_iff`: the names and the values of such a map.
* `get?_ofList_map`: the values of a map that a function gives.
* `ofList_map`: changing the values before or after the map is made.
* `ext_get?`: a map is determined by its names, in order, and their values.
* `entries_ofList`: entries with different names are kept as they are.
* `mem_entries_ofList`: of the entries with one name the last one is kept.
-/

namespace NoteQuery.OrderedMap

variable {α : Type}

@[simp] theorem ofList_nil : (ofList [] : OrderedMap α) = empty := rfl

@[simp] theorem ofList_concat (es : List (String × α)) (e : String × α) :
    ofList (es ++ [e]) = (ofList es).insert e.1 e.2 := by
  simp [ofList]

theorem keys_ofList (es : List (String × α)) :
    (ofList es).keys = (es.map Prod.fst).eraseDups := by
  induction es using List.reverseRecOn with
  | nil => rfl
  | append_singleton es e ih =>
    rw [ofList_concat, keys_insert, ih, List.map_append, List.eraseDups_append]
    by_cases h : e.1 ∈ es.map Prod.fst
    · simp [h, List.removeAll]
    · simp [h, List.removeAll, List.eraseDups_cons]

theorem get?_ofList (es : List (String × α)) (name : String) :
    (ofList es).get? name = es.reverse.lookup name := by
  induction es using List.reverseRecOn with
  | nil => rfl
  | append_singleton es e ih =>
    rw [ofList_concat, get?_insert, ih, List.reverse_append, List.reverse_singleton,
      List.singleton_append, List.lookup_cons]
    by_cases h : name = e.1
    · simp [h]
    · rw [if_neg h, beq_eq_false_iff_ne.mpr h]

theorem get?_ofList_eq_some_iff {es : List (String × α)} {name : String} {v : α} :
    (ofList es).get? name = some v ↔
      ∃ before after, es = before ++ (name, v) :: after ∧ ∀ e ∈ after, e.1 ≠ name := by
  rw [get?_ofList, List.lookup_eq_some_iff]
  constructor
  · rintro ⟨after, before, hes, hafter⟩
    refine ⟨before.reverse, after.reverse, ?_, fun e he => ?_⟩
    · rw [← List.reverse_reverse es, hes]
      simp
    · have := hafter e (List.mem_reverse.mp he)
      exact fun h => by simp [h] at this
  · rintro ⟨before, after, rfl, hafter⟩
    refine ⟨after.reverse, before.reverse, by simp, fun e he => ?_⟩
    have := hafter e (List.mem_reverse.mp he)
    simpa using Ne.symm this

/-- A map that gives every name of a list the value of a function. -/
theorem get?_ofList_map (f : String → α) (names : List String) (name : String) :
    (ofList (names.map fun n => (n, f n))).get? name =
      if name ∈ names then some (f name) else none := by
  induction names using List.reverseRecOn with
  | nil => rfl
  | append_singleton names n ih =>
    rw [List.map_append, List.map_singleton, ofList_concat, get?_insert, ih]
    by_cases h : name = n
    · simp [h]
    · simp [h]

theorem get?_map {β : Type} (f : α → β) (m : OrderedMap α) (name : String) :
    (m.map f).get? name = (m.get? name).map f := by
  rw [get?, get?, map]
  dsimp only
  induction m.entries with
  | nil => rfl
  | cons e es ih =>
    rw [List.map_cons, List.lookup_cons, List.lookup_cons, ih]
    cases name == e.1 <;> rfl

theorem entries_eq_of_lookup {es fs : List (String × α)} (hes : (es.map Prod.fst).Nodup)
    (hnames : es.map Prod.fst = fs.map Prod.fst)
    (hlookup : ∀ name ∈ es.map Prod.fst, es.lookup name = fs.lookup name) : es = fs := by
  induction es generalizing fs with
  | nil => simpa using hnames.symm
  | cons e es ih =>
    cases fs with
    | nil => simp at hnames
    | cons f fs =>
      obtain ⟨name, v⟩ := e
      obtain ⟨name', w⟩ := f
      simp only [List.map_cons, List.cons.injEq] at hnames
      obtain ⟨rfl, hnames⟩ := hnames
      rw [List.map_cons, List.nodup_cons] at hes
      have hvalue : v = w := by simpa using hlookup name (by simp)
      rw [hvalue, ih hes.2 hnames]
      intro other hother
      have hne : other ≠ name := fun h => hes.1 (h ▸ hother)
      have := hlookup other (List.mem_cons_of_mem _ hother)
      simpa [List.lookup_cons, beq_eq_false_iff_ne.mpr hne] using this

theorem ext_get? {m n : OrderedMap α} (hkeys : m.keys = n.keys)
    (hget : ∀ name ∈ m.keys, m.get? name = n.get? name) : m = n :=
  ext (entries_eq_of_lookup m.nodup hkeys hget)

theorem mem_keys_iff {m : OrderedMap α} {name : String} :
    name ∈ m.keys ↔ ∃ v, m.get? name = some v := by
  rw [← Option.isSome_iff_exists, get?, List.lookup_isSome_iff, keys, List.mem_map]
  simp only [beq_iff_eq, eq_comm (a := name)]

theorem get?_eq_some_iff {m : OrderedMap α} {name : String} {v : α} :
    m.get? name = some v ↔ (name, v) ∈ m.entries := by
  rw [get?, List.lookup_eq_some_iff]
  constructor
  · rintro ⟨before, after, hentries, -⟩
    rw [hentries]
    exact List.mem_append_right _ List.mem_cons_self
  · intro hmem
    obtain ⟨before, after, hentries⟩ := List.append_of_mem hmem
    refine ⟨before, after, hentries, fun e he => ?_⟩
    have hnodup := m.nodup
    rw [hentries, List.map_append, List.nodup_append] at hnodup
    exact bne_iff_ne.mpr (Ne.symm (hnodup.2.2 e.1 (List.mem_map_of_mem he) name (by simp)))

/-- Entries with different names make a map of the same entries. -/
theorem entries_ofList {es : List (String × α)} (h : (es.map Prod.fst).Nodup) :
    (ofList es).entries = es := by
  induction es using List.reverseRecOn with
  | nil => rfl
  | append_singleton es e ih =>
    rw [List.map_append, List.nodup_append] at h
    have hnew : e.1 ∉ es.map Prod.fst := fun hmem =>
      h.2.2 e.1 hmem e.1 (by simp) rfl
    rw [ofList_concat]
    show insertEntry e.1 e.2 (ofList es).entries = es ++ [e]
    rw [ih h.1]
    clear ih h
    induction es with
    | nil => rfl
    | cons f es ih =>
      simp only [List.map_cons, List.mem_cons, not_or] at hnew
      rw [insertEntry, if_neg (Ne.symm hnew.1), ih hnew.2]
      rfl

/-! ## The last entries -/

/-- The entries whose names do not come again behind them. -/
def lastEntries : List (String × α) → List (String × α)
  | [] => []
  | e :: es => if e.1 ∈ es.map Prod.fst then lastEntries es else e :: lastEntries es

theorem mem_lastEntries_iff {es : List (String × α)} {name : String} {v : α} :
    (name, v) ∈ lastEntries es ↔
      ∃ before after, es = before ++ (name, v) :: after ∧ ∀ e ∈ after, e.1 ≠ name := by
  induction es with
  | nil => simp [lastEntries]
  | cons e es ih =>
    have hcons : (∃ before after, e :: es = before ++ (name, v) :: after ∧
        ∀ e ∈ after, e.1 ≠ name) ↔
        (e = (name, v) ∧ ∀ f ∈ es, f.1 ≠ name) ∨ (name, v) ∈ lastEntries es := by
      rw [ih]
      constructor
      · rintro ⟨before, after, hes, hafter⟩
        cases before with
        | nil =>
          obtain ⟨rfl, rfl⟩ := List.cons.inj hes
          exact Or.inl ⟨rfl, hafter⟩
        | cons b before =>
          obtain ⟨rfl, rfl⟩ := List.cons.inj hes
          exact Or.inr ⟨before, after, rfl, hafter⟩
      · rintro (⟨rfl, hes⟩ | ⟨before, after, rfl, hafter⟩)
        · exact ⟨[], es, rfl, hes⟩
        · exact ⟨e :: before, after, rfl, hafter⟩
    rw [hcons, lastEntries]
    by_cases hagain : e.1 ∈ es.map Prod.fst
    · rw [if_pos hagain]
      refine ⟨Or.inr, ?_⟩
      rintro (⟨rfl, hes⟩ | hmem)
      · obtain ⟨f, hf, hname⟩ := List.mem_map.mp hagain
        exact absurd hname (hes f hf)
      · exact hmem
    · rw [if_neg hagain, List.mem_cons]
      refine or_congr_left ⟨?_, fun h => h.1.symm⟩
      rintro rfl
      exact ⟨rfl, fun f hf hname => hagain (List.mem_map.mpr ⟨f, hf, hname⟩)⟩

theorem mem_entries_ofList {es : List (String × α)} {e : String × α} :
    e ∈ (ofList es).entries ↔ e ∈ lastEntries es := by
  obtain ⟨name, v⟩ := e
  rw [← get?_eq_some_iff, get?_ofList_eq_some_iff, mem_lastEntries_iff]

theorem lastEntries_eq_self {es : List (String × α)} (h : (es.map Prod.fst).Nodup) :
    lastEntries es = es := by
  induction es with
  | nil => rfl
  | cons e es ih =>
    rw [List.map_cons, List.nodup_cons] at h
    rw [lastEntries, if_neg h.1, ih h.2]

end NoteQuery.OrderedMap
