import NoteQuery.Vault.Pool

/-!
# Runs of a pool

However the steps of a pool are ordered, the caller collects the results of the items in their order,
and no others. With a worker at least there is always a next step until all results are collected,
and every step brings the pool nearer to its end.

* `Inv`, `Step.inv`, `inv_of_steps`: what holds in every state that a pool reaches.
* `exists_step`, `Step.remaining_lt`: progress.
* `maps_iff`: the results that a pool gives.
-/

namespace NoteQuery.Pool

variable {α β : Type} {workers : Nat} {f : α → β} {xs : List α} {ys : List β} {p q : Pool α β}

/-- What holds of a pool for the items `xs`: no item has changed its place or got lost, and what was
collected are the first results. -/
structure Inv (f : α → β) (xs : List α) (p : Pool α β) : Prop where
  waiting : ∀ item ∈ p.waiting, xs[item.2]? = some item.1
  running : ∀ item ∈ p.running, xs[item.2]? = some item.1
  finished : ∀ result ∈ p.finished, (xs.map f)[result.1]? = some result.2
  kept : ∀ i < xs.length,
    i ∈ p.waiting.map Prod.snd ∨ i ∈ p.running.map Prod.snd ∨ i ∈ p.finished.map Prod.fst
  collected : p.collected = (xs.map f).take p.collected.length

theorem inv_start : Inv f xs (start xs) where
  waiting item hitem := List.mk_mem_zipIdx_iff_getElem?.mp hitem
  running item hitem := by cases hitem
  finished result hresult := by cases hresult
  kept i hi := by
    refine Or.inl (List.mem_map.mpr ⟨(xs[i], i), ?_, rfl⟩)
    exact List.mk_mem_zipIdx_iff_getElem?.mpr (List.getElem?_eq_getElem hi)
  collected := rfl

theorem mem_of_lookup {i : Nat} {y : β} {results : List (Nat × β)}
    (h : results.lookup i = some y) : (i, y) ∈ results := by
  obtain ⟨front, back, rfl, -⟩ := List.lookup_eq_some_iff.mp h
  exact List.mem_append_right _ List.mem_cons_self

/-- A step keeps the invariant. -/
theorem Step.inv (hstep : Step workers f p q) (hp : Inv f xs p) : Inv f xs q := by
  cases hstep with
  | @take item rest next free =>
    have hwaiting := hp.waiting
    have hkept := hp.kept
    rw [next] at hwaiting hkept
    obtain ⟨hitem, hrest⟩ := List.forall_mem_cons.mp hwaiting
    exact {
      waiting := hrest
      running := List.forall_mem_cons.mpr ⟨hitem, hp.running⟩
      finished := hp.finished
      kept := fun i hi => by
        simp only [List.map_cons, List.mem_cons] at hkept ⊢
        rcases hkept i hi with (heq | hwaits) | hruns | hends
        · exact Or.inr (Or.inl (Or.inl heq))
        · exact Or.inl hwaits
        · exact Or.inr (Or.inl (Or.inr hruns))
        · exact Or.inr (Or.inr hends)
      collected := hp.collected }
  | @finish x i front back running =>
    have hrunning := hp.running
    have hkept := hp.kept
    rw [running] at hrunning hkept
    obtain ⟨hfront, hback⟩ := List.forall_mem_append.mp hrunning
    obtain ⟨hitem, hback⟩ := List.forall_mem_cons.mp hback
    have hresult : (xs.map f)[i]? = some (f x) := by
      rw [List.getElem?_map, hitem, Option.map_some]
    exact {
      waiting := hp.waiting
      running := List.forall_mem_append.mpr ⟨hfront, hback⟩
      finished := List.forall_mem_cons.mpr ⟨hresult, hp.finished⟩
      kept := fun j hj => by
        simp only [List.map_append, List.map_cons, List.mem_append, List.mem_cons] at hkept ⊢
        rcases hkept j hj with hwaits | (hruns | heq | hruns) | hends
        · exact Or.inl hwaits
        · exact Or.inr (Or.inl (Or.inl hruns))
        · exact Or.inr (Or.inr (Or.inl heq))
        · exact Or.inr (Or.inl (Or.inr hruns))
        · exact Or.inr (Or.inr (Or.inr hends))
      collected := hp.collected }
  | @collect y ready =>
    have hnext : (xs.map f)[p.collected.length]? = some y := hp.finished _ (mem_of_lookup ready)
    exact {
      waiting := hp.waiting
      running := hp.running
      finished := hp.finished
      kept := hp.kept
      collected := by
        rw [List.length_append, List.length_singleton, List.take_add_one, hnext, ← hp.collected]
        rfl }

theorem inv_of_steps (h : Relation.ReflTransGen (Step workers f) (start xs) p) : Inv f xs p := by
  induction h with
  | refl => exact inv_start
  | tail _ hstep ih => exact hstep.inv ih

/-! ## Progress -/

theorem Inv.length_collected_le (h : Inv f xs p) : p.collected.length ≤ xs.length := by
  have hlength := congrArg List.length h.collected
  rw [List.length_take, List.length_map] at hlength
  omega

/-- As long as results are missing some step can be taken. -/
theorem exists_step (hworkers : 0 < workers) (h : Inv f xs p)
    (hmissing : p.collected.length < xs.length) : ∃ q, Step workers f p q := by
  cases hrunning : p.running with
  | cons item back => exact ⟨_, .finish (hrunning.trans (List.nil_append _).symm)⟩
  | nil =>
    cases hwaiting : p.waiting with
    | cons item rest => exact ⟨_, .take hwaiting (by rw [hrunning]; exact hworkers)⟩
    | nil =>
      -- nothing waits and nothing runs, so that the next result is there
      have hkept := h.kept _ hmissing
      rw [hrunning, hwaiting] at hkept
      have hfinished : p.collected.length ∈ p.finished.map Prod.fst := by simpa using hkept
      have hready : (p.finished.lookup p.collected.length).isSome := by
        rw [List.lookup_isSome_iff]
        obtain ⟨result, hresult, heq⟩ := List.mem_map.mp hfinished
        exact ⟨result, hresult, by rw [heq]; exact beq_self_eq_true _⟩
      obtain ⟨y, hy⟩ := Option.isSome_iff_exists.mp hready
      exact ⟨_, .collect hy⟩

/-- How many steps a pool for `n` items has left at the most. -/
def remaining (n : Nat) (p : Pool α β) : Nat :=
  2 * p.waiting.length + p.running.length + (n - p.collected.length)

theorem Step.remaining_lt (hstep : Step workers f p q) (hp : Inv f xs p) :
    remaining xs.length q < remaining xs.length p := by
  have hq := (hstep.inv hp).length_collected_le
  cases hstep with
  | take next free =>
    simp only [remaining, next, List.length_cons]
    omega
  | finish running =>
    simp only [remaining, running, List.length_append, List.length_cons]
    omega
  | collect ready =>
    simp only [remaining, List.length_append, List.length_singleton] at hq ⊢
    omega

/-- From every state that a pool has reached it gets to its end. -/
theorem exists_end_of_inv (hworkers : 0 < workers) (h : Inv f xs p) :
    ∃ q, Relation.ReflTransGen (Step workers f) p q ∧ q.collected.length = xs.length := by
  induction hn : remaining xs.length p using Nat.strongRecOn generalizing p with
  | ind n ih =>
    by_cases hmissing : p.collected.length < xs.length
    · obtain ⟨q, hstep⟩ := exists_step hworkers h hmissing
      obtain ⟨r, hsteps, hend⟩ := ih _ (hn ▸ hstep.remaining_lt h) (hstep.inv h) rfl
      exact ⟨r, .head hstep hsteps, hend⟩
    · exact ⟨p, .refl, Nat.le_antisymm h.length_collected_le (Nat.le_of_not_lt hmissing)⟩

/-! ## Results -/

/-- A pool gives the results of its items in their order, however many workers it has. -/
theorem maps_iff (hworkers : 0 < workers) : Maps workers f xs ys ↔ ys = xs.map f := by
  have hcollected {p : Pool α β} (hinv : Inv f xs p) (hend : p.collected.length = xs.length) :
      p.collected = xs.map f := by
    have hprefix := hinv.collected
    rwa [hend, ← List.length_map f, List.take_length] at hprefix
  constructor
  · rintro ⟨p, hsteps, hend, rfl⟩
    exact hcollected (inv_of_steps hsteps) hend
  · rintro rfl
    have hstart : Inv f xs (start xs) := inv_start
    obtain ⟨p, hsteps, hend⟩ := exists_end_of_inv hworkers hstart
    exact ⟨p, hsteps, hend, (hcollected (inv_of_steps hsteps) hend).symm⟩

end NoteQuery.Pool
