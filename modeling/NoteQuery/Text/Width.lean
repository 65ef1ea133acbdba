import NoteQuery.Text.CellTable

/-!
# Display width

The number of terminal cells that a text takes. Each character has a width of its own; a joiner hides
the character after it, and a variation selector widens a narrow emoji before it by one.

* `width_eq_total`: without joiners and selectors, the width of a text is the total of the widths of
  its characters.
-/

namespace NoteQuery.Text

def inRanges (ranges : List (Nat × Nat)) (c : Char) : Bool :=
  ranges.any fun r => r.1 ≤ c.toNat && c.toNat ≤ r.2

/-- The cells of a character that stands alone. Control characters take none. -/
def charWidth (c : Char) : Nat :=
  let n := c.toNat
  if n < 0x20 then 0
  else if n < 0x7f then 1
  else if n < 0xa0 then 0
  else if inRanges zeroWidthRanges c then 0
  else if inRanges wideRanges c then 2
  else 1

def joiner : Char := Char.ofNat 0x200d

def selector : Char := Char.ofNat 0xfe0f

/-- The width of a text after the visible character `last`; a hidden character takes no cells. -/
def widthAfter (last : Option Char) (hidden : Bool) : List Char → Nat
  | [] => 0
  | c :: cs =>
    if hidden then widthAfter last false cs
    else if c = joiner then widthAfter last true cs
    else if c = selector then
      (if last.any (inRanges emojiFormRanges) then 1 else 0) + widthAfter none false cs
    else if charWidth c = 0 then widthAfter last false cs
    else charWidth c + widthAfter (some c) false cs

/-- The cells that stretches of some widths take side by side. -/
def total : List Nat → Nat
  | [] => 0
  | w :: ws => w + total ws

/-- The cells that a text takes. -/
def width (cs : List Char) : Nat := widthAfter none false cs

theorem widthAfter_eq_total {cs : List Char} (last : Option Char) (hj : joiner ∉ cs)
    (hs : selector ∉ cs) : widthAfter last false cs = total (cs.map charWidth) := by
  induction cs generalizing last with
  | nil => rfl
  | cons c cs ih => grind [widthAfter, total]

theorem width_eq_total {cs : List Char} (hj : joiner ∉ cs) (hs : selector ∉ cs) :
    width cs = total (cs.map charWidth) :=
  widthAfter_eq_total none hj hs

def spaces (n : Nat) : List Char := List.replicate n ' '

/-- The text with spaces after it, up to a width. -/
def padEnd (n : Nat) (cs : List Char) : List Char := cs ++ spaces (n - width cs)

end NoteQuery.Text
