import NoteQuery.Proofs.Query.Rerunning

/-!
# What a query sees of a record

A query reads a record only through the names that it mentions: the fields of its conditions, the
field that it sorts by and the fields that it shows. Records that come from the same files and hold
the same values under these names give the same rows; if the query shows the records as they are,
they give rows of the same files. If the query fails for the ones, it fails for the others, too. A
missing field is the same as a null, and what a record holds under any other name does not matter.

* `Related`: results that are alike. `related_filter`, `related_sort`, `forall₂_limit`, `view_eq`: the
  stages on records that are alike.
* `run_alike`: a query on two lists of records.
-/

namespace NoteQuery

namespace Record

/-- The records come from the same file and hold the same values under the names. -/
structure Alike (names : List String) (r s : Record) : Prop where
  file : r.file = s.file
  get : ∀ name ∈ names, r.get name = s.get name

/-- The record with null for a field that is missing. -/
def withNull (name : String) (r : Record) : Record :=
  if (r.get? name).isNone then ⟨r.file, r.fields.insert name .null⟩ else r

variable {names others : List String} {r s : Record}

theorem Alike.refl (names : List String) (r : Record) : Alike names r r := ⟨rfl, fun _ _ => rfl⟩

theorem Alike.mono (h : Alike names r s) (hsub : ∀ name ∈ others, name ∈ names) :
    Alike others r s := ⟨h.file, fun name hname => h.get name (hsub name hname)⟩

theorem get_withNull (name other : String) (r : Record) :
    (r.withNull name).get other = r.get other := by
  unfold withNull
  split
  · rename_i hmissing
    have hnone : r.fields.get? name = none := Option.isNone_iff_eq_none.mp hmissing
    rw [get, get, get?, get?, OrderedMap.get?_insert]
    by_cases heq : other = name
    · rw [if_pos heq, heq, hnone]
      rfl
    · rw [if_neg heq]
  · rfl

/-- A missing field is the same as a null. -/
theorem alike_withNull (names : List String) (name : String) (r : Record) :
    Alike names r (r.withNull name) := by
  refine ⟨?_, fun other _ => (get_withNull name other r).symm⟩
  unfold withNull
  split <;> rfl

/-- What records hold under other names does not matter. -/
theorem alike_of_get? (hfile : r.file = s.file) (h : ∀ name ∈ names, r.get? name = s.get? name) :
    Alike names r s := ⟨hfile, fun name hname => by rw [get, get, h name hname]⟩

end Record

namespace Stage

theorem view_eq {names : List String} {r s : Record} (hne : names ≠ [])
    (h : Record.Alike names r s) : view (some names) r = view (some names) s := by
  have hvalues : (names.map fun name => (name, projected r name)) =
      names.map fun name => (name, projected s name) :=
    List.map_congr_left fun name hname => by rw [projected, projected, h.file, h.get name hname]
  rw [view_of_ne_nil hne, view_of_ne_nil hne, project, project, h.file, hvalues]

/-- Two stages fail for the same reason, or they both come to records that are related. -/
inductive Related (R : List Record → List Record → Prop) :
    Except ConditionError (List Record) → Except ConditionError (List Record) → Prop
  | failed (e : ConditionError) : Related R (.error e) (.error e)
  | found {records others : List Record} (h : R records others) :
      Related R (.ok records) (.ok others)

theorem Related.exists_of_ok {R : List Record → List Record → Prop} {records : List Record}
    {result : Except ConditionError (List Record)} (h : Related R (.ok records) result) :
    ∃ others, result = .ok others ∧ R records others := by
  cases h with
  | found h => exact ⟨_, rfl, h⟩

theorem related_filter {R : Record → Record → Prop} {conditions : List (String × Input)}
    {records others : List Record} (h : List.Forall₂ R records others)
    (hmeets : ∀ r s, R r s → r.meets conditions = s.meets conditions) :
    Related (List.Forall₂ R) (filter conditions records) (filter conditions others) := by
  induction h with
  | nil => exact .found .nil
  | @cons r s rs ss hrs _ ih =>
    rw [filter, filter, hmeets r s hrs]
    cases s.meets conditions with
    | error e => exact .failed e
    | ok keep =>
      generalize filter conditions rs = kept at ih ⊢
      generalize filter conditions ss = keptOthers at ih ⊢
      cases ih with
      | failed e => exact .failed e
      | found hkept =>
        cases keep with
        | false => exact .found hkept
        | true => exact .found (.cons hrs hkept)

theorem forall₂_sorted {field : String} {names : List String} {records others : List Record}
    (order : SortOrder) (h : List.Forall₂ (Record.Alike names) records others)
    (hfield : field ∈ names) :
    List.Forall₂ (Record.Alike names) (sorted (some ⟨some field, order⟩) records)
      (sorted (some ⟨some field, order⟩) others) := by
  by_cases hempty : field = ""
  · have hsorted : ∀ rs, sorted (some ⟨some field, order⟩) rs = rs := fun rs => if_pos hempty
    rw [hsorted, hsorted]
    exact h
  · rw [sorted_eq_mergeSort hempty, sorted_eq_mergeSort hempty]
    apply MergeSort.forall₂_mergeSort h
    intro r s t u hrs htu
    rw [hrs.get field hfield, htu.get field hfield]

/-- Sorting sees the same keys on both sides, and compares the same pairs of them. -/
theorem related_sort {s : Option Sorting} {names : List String} {records others : List Record}
    (h : List.Forall₂ (Record.Alike names) records others)
    (hfield : ∀ field order, s = some ⟨some field, order⟩ → field ≠ "" → field ∈ names) :
    Related (List.Forall₂ (Record.Alike names)) (sort s records) (sort s others) := by
  match s with
  | none => exact .found h
  | some ⟨none, _⟩ => exact .found h
  | some ⟨some field, order⟩ =>
    by_cases hempty : field = ""
    · subst hempty
      exact .found h
    · have hfield := hfield field order rfl hempty
      have hkeys : (records.map fun r => r.get field) = others.map fun r => r.get field := by
        rw [← List.forall₂_eq_eq_eq, List.forall₂_map_left_iff, List.forall₂_map_right_iff]
        exact h.imp fun r s hrs => hrs.get field hfield
      rw [sort, sort, sortable_congr order hkeys]
      cases sortable (some ⟨some field, order⟩) others with
      | false => exact .failed _
      | true => exact .found (forall₂_sorted order h hfield)

theorem forall₂_limit {R : Record → Record → Prop} {records others : List Record} (n : Option Int)
    (h : List.Forall₂ R records others) : List.Forall₂ R (limit n records) (limit n others) := by
  by_cases hpos : ∃ i, n = some i ∧ 0 < i
  · obtain ⟨i, rfl, hi⟩ := hpos
    rw [limit_of_pos hi, limit_of_pos hi]
    exact List.forall₂_take _ h
  · have hn : ∀ i, n = some i → i ≤ 0 := fun i hi => Int.not_lt.mp fun hlt => hpos ⟨i, hi, hlt⟩
    rw [limit_of_not_pos hn, limit_of_not_pos hn]
    exact h

end Stage

namespace Query

/-- The names by which a query sees a record. -/
def mentioned (q : Query) : List String := q.named ++ q.fields.getD []

/-- The query fails for the same reason for both lists of records, or it gives rows of the same files
for both, and the same rows if it asks for fields. -/
def Agree (q : Query) (records others : List Record) : Prop :=
  Stage.Related (fun rows shown => rows.map Record.file = shown.map Record.file ∧
    (q.fields.getD [] ≠ [] → rows = shown)) (q.run records) (q.run others)

variable {q : Query} {records others : List Record}

theorem mem_mentioned_of_mem_named {name : String} (h : name ∈ q.named) : name ∈ q.mentioned :=
  List.mem_append_left _ h

theorem meets_of_alike {r s : Record} (hfree : q.PredicateFree)
    (h : Record.Alike q.mentioned r s) : r.meets q.inputs = s.meets q.inputs := by
  apply Record.meets_congr
  intro x hx
  obtain ⟨e, he, rfl⟩ := List.mem_map.mp hx
  have hmem := mem_mentioned_of_mem_named (mem_named_of_mem_conditions he)
  exact Condition.test_congr (hfree e he) (h.get e.1 hmem)

/-- Sorted records that are alike are shown alike. -/
theorem shown_of_alike (h : List.Forall₂ (Record.Alike q.mentioned) records others) :
    (Stage.select q.fields (Stage.limit q.limit records)).map Record.file =
        (Stage.select q.fields (Stage.limit q.limit others)).map Record.file ∧
      (q.fields.getD [] ≠ [] → Stage.select q.fields (Stage.limit q.limit records) =
        Stage.select q.fields (Stage.limit q.limit others)) := by
  have hfound := Stage.forall₂_limit q.limit h
  rw [Stage.select_eq_map, Stage.select_eq_map]
  refine ⟨?_, fun hfields => ?_⟩
  · rw [← List.forall₂_eq_eq_eq]
    simp only [List.forall₂_map_left_iff, List.forall₂_map_right_iff, Stage.view_file]
    exact hfound.imp fun r s hrs => hrs.file
  · obtain ⟨names, hnames⟩ : ∃ names, q.fields = some names :=
      Option.ne_none_iff_exists'.mp fun hnone => hfields (by rw [hnone]; rfl)
    rw [hnames] at hfields
    have hsub : ∀ name ∈ names, name ∈ q.mentioned := fun name hname =>
      List.mem_append_right _ (by rw [hnames]; exact hname)
    rw [← List.forall₂_eq_eq_eq]
    simp only [List.forall₂_map_left_iff, List.forall₂_map_right_iff, hnames]
    exact hfound.imp fun r s hrs => Stage.view_eq hfields (hrs.mono hsub)

theorem agree_of_alike (hfree : q.PredicateFree)
    (h : List.Forall₂ (Record.Alike q.mentioned) records others) : q.Agree records others := by
  have hfilter := Stage.related_filter h fun _ _ hrs => meets_of_alike hfree hrs
  unfold Agree run
  generalize Stage.filter q.inputs records = kept at hfilter ⊢
  generalize Stage.filter q.inputs others = keptOthers at hfilter ⊢
  cases hfilter with
  | failed e => exact .failed e
  | @found rs ss hkept =>
    have hsort := Stage.related_sort (s := q.sort) hkept fun field order hsort hfield =>
      mem_mentioned_of_mem_named
        (mem_named_of_sorting? (sorting?_eq_some_iff.mpr ⟨hsort, hfield⟩))
    dsimp only
    generalize Stage.sort q.sort rs = sorted at hsort ⊢
    generalize Stage.sort q.sort ss = sortedOthers at hsort ⊢
    cases hsort with
    | failed e => exact .failed e
    | found hsorted => exact .found (shown_of_alike hsorted)

/-- A query without predicates sees a record only through the names that it mentions: it agrees on
lists of records that are alike under these names, a null may stand for a missing field, and what
one record holds under other names may change. -/
theorem run_alike (hfree : q.PredicateFree) :
    (∀ records others, List.Forall₂ (Record.Alike q.mentioned) records others →
        q.Agree records others) ∧
      (∀ records name, q.Agree records (records.map (Record.withNull name))) ∧
      ∀ before after r s, r.file = s.file → (∀ name ∈ q.mentioned, r.get? name = s.get? name) →
        q.Agree (before ++ r :: after) (before ++ s :: after) := by
  refine ⟨fun records others h => agree_of_alike hfree h, fun records name => ?_,
    fun before after r s hfile hget => ?_⟩
  · apply agree_of_alike hfree
    rw [List.forall₂_map_right_iff, List.forall₂_same]
    exact fun r _ => Record.alike_withNull _ name r
  · have hsame : ∀ rs, List.Forall₂ (Record.Alike q.mentioned) rs rs := fun rs =>
      List.forall₂_same.mpr fun t _ => Record.Alike.refl _ t
    apply agree_of_alike hfree
    exact List.rel_append (hsame before) (.cons (Record.alike_of_get? hfile hget) (hsame after))

/-- The second records hold another tag, and a null where the first ones hold nothing. -/
theorem run_alike_of_tags :
    let file : FileIdentity := { path := some "a.md", title := some "a" }
    let q : Query :=
      { conditions := .ofList [("n", .operator .lte (.int 3))]
        sort := some ⟨some "n", .descending⟩
        fields := some ["title", "n"] }
    let records : List Record := [⟨file, .ofList [("n", .int 2), ("tag", .text "x")]⟩, ⟨{}, .empty⟩]
    let others : List Record :=
      [⟨file, .ofList [("tag", .text "y"), ("n", .int 2)]⟩, ⟨{}, .ofList [("n", .null)]⟩]
    q.PredicateFree ∧ List.Forall₂ (Record.Alike q.mentioned) records others ∧
      ∃ rows, q.run records = .ok rows ∧ q.run others = .ok rows := by
  intro file q records others
  have hfree : q.PredicateFree := by
    intro e he
    have he : e = ("n", .operator .lte (.int 3)) := List.mem_singleton.mp he
    rw [he]
    rfl
  have hmentioned : q.mentioned = ["n", "n", "title", "n"] := rfl
  have halike : List.Forall₂ (Record.Alike q.mentioned) records others := by
    rw [hmentioned]
    refine .cons ⟨rfl, ?_⟩ (.cons ⟨rfl, ?_⟩ .nil) <;>
    · simp only [List.forall_mem_cons, List.not_mem_nil, false_imp_iff, implies_true, and_true]
      exact ⟨rfl, rfl, rfl, rfl⟩
  have hwritable : ∀ r ∈ records, (r.get "n").isWritable := by decide
  have hanswers : q.Answers records :=
    answers_of_isWritable hfree (List.forall_mem_singleton.mpr rfl)
      fun r hr => List.forall_mem_singleton.mpr (hwritable r hr)
  have hsortable : q.Sortable records := by
    apply sortable_of_isWritable
    intro field order hsorting
    cases hsorting
    exact hwritable
  have hrun : q.run records = .ok (q.rows records) := run_eq_ok hanswers hsortable
  have hagree := (run_alike hfree).1 _ _ halike
  rw [Agree, hrun] at hagree
  obtain ⟨shown, hshown, -, heq⟩ := hagree.exists_of_ok
  obtain rfl := heq (List.cons_ne_nil "title" ["n"])
  exact ⟨hfree, halike, _, hrun, hshown⟩

end Query

end NoteQuery
