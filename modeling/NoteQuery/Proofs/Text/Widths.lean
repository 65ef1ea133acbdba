import NoteQuery.Proofs.Text.Digits
import NoteQuery.Text.Width

/-!
# Widths of texts that are put together

A text without joiners and variation selectors is as wide as its characters together, whatever
stands around it. Printable ASCII characters take one cell each.

* `width_append`, `width_padEnd`: texts side by side, and filled up with spaces.
* `width_of_ascii`, `width_toDigits`: texts that have as many cells as characters.
-/

namespace NoteQuery.Text

/-- No character of the text changes the width of another one. -/
structure AddsUp (cs : List Char) : Prop where
  joiner_notMem : joiner ∉ cs
  selector_notMem : selector ∉ cs

namespace AddsUp

variable {cs ds : List Char}

theorem width_eq (h : AddsUp cs) : width cs = total (cs.map charWidth) :=
  width_eq_total h.joiner_notMem h.selector_notMem

theorem append (hcs : AddsUp cs) (hds : AddsUp ds) : AddsUp (cs ++ ds) := by
  refine ⟨?_, ?_⟩
  · exact List.not_mem_append hcs.joiner_notMem hds.joiner_notMem
  · exact List.not_mem_append hcs.selector_notMem hds.selector_notMem

end AddsUp

/-! ## Printable ASCII -/

def IsAscii (c : Char) : Prop := 0x20 ≤ c.toNat ∧ c.toNat < 0x7f

theorem isAscii_space : IsAscii ' ' := ⟨by decide, by decide⟩

theorem charWidth_of_isAscii {c : Char} (h : IsAscii c) : charWidth c = 1 := by
  rw [charWidth, if_neg (Nat.not_lt.mpr h.1), if_pos h.2]

variable {cs : List Char} {n : Nat}

theorem addsUp_of_ascii (h : ∀ c ∈ cs, IsAscii c) : AddsUp cs := by
  refine ⟨fun hmem => ?_, fun hmem => ?_⟩
  · have hlt := (h joiner hmem).2
    contradiction
  · have hlt := (h selector hmem).2
    contradiction

theorem width_of_ascii (h : ∀ c ∈ cs, IsAscii c) : width cs = cs.length := by
  rw [(addsUp_of_ascii h).width_eq]
  induction cs with
  | nil => rfl
  | cons c cs ih =>
    have ih := ih fun d hd => h d (List.mem_cons_of_mem _ hd)
    rw [List.map_cons, total, ih, charWidth_of_isAscii (h c List.mem_cons_self), List.length_cons,
      Nat.add_comm]

theorem isAscii_of_mem_spaces {c : Char} (h : c ∈ spaces n) : IsAscii c := by
  rw [List.eq_of_mem_replicate h]
  exact isAscii_space

theorem notMem_spaces {c : Char} (h : c ≠ ' ') (n : Nat) : c ∉ spaces n := by
  intro hmem
  exact h (List.eq_of_mem_replicate hmem)

theorem AddsUp.padEnd (h : AddsUp cs) (n : Nat) : AddsUp (padEnd n cs) :=
  h.append (addsUp_of_ascii fun _ hc => isAscii_of_mem_spaces hc)

theorem isAscii_of_mem_toDigits {c : Char} (h : c ∈ Nat.toDigits 10 n) : IsAscii c := by
  have hdigit := toNat_of_isDigit (Nat.isDigit_of_mem_toDigits (by decide) (by decide) h)
  constructor <;> omega

theorem width_toDigits (n : Nat) : width (Nat.toDigits 10 n) = (Nat.toDigits 10 n).length :=
  width_of_ascii fun _ hc => isAscii_of_mem_toDigits hc

end NoteQuery.Text
