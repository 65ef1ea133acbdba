import NoteQuery.Text.Width

/-!
# Clusters

A text is cut for display between clusters only. A cluster is a visible character with what belongs
to it: marks without a width, joined characters and variation selectors.
-/

namespace NoteQuery.Text

structure Cluster where
  chars : List Char
  cells : Nat
  deriving Repr

/-- The cluster with one more character and some more cells. -/
def Cluster.extend (k : Cluster) (c : Char) (cells : Nat) : Cluster :=
  ⟨k.chars ++ [c], k.cells + cells⟩

/-- The clusters of a text, where the cluster `begun` may still grow. The visible character
that a selector may widen is `last`, and a `hidden` character takes no cells. -/
def clustersAfter (begun : Option Cluster) (last : Option Char) (hidden : Bool) :
    List Char → List Cluster
  | [] => begun.toList
  | c :: cs =>
    match begun with
    | none => clustersAfter (some ⟨[c], charWidth c⟩) (if charWidth c = 0 then last else some c) false cs
    | some k =>
      if hidden then clustersAfter (some (k.extend c 0)) last false cs
      else if c = joiner then clustersAfter (some (k.extend c 0)) last true cs
      else if c = selector then
        if last.any (inRanges emojiFormRanges) then
          clustersAfter (some (k.extend c 1)) none false cs
        else clustersAfter (some (k.extend c 0)) last false cs
      else if charWidth c = 0 then clustersAfter (some (k.extend c 0)) last false cs
      else k :: clustersAfter (some ⟨[c], charWidth c⟩) (some c) false cs

def clusters (cs : List Char) : List Cluster := clustersAfter none none false cs

/-- The longest part of the clusters that fits. Where a cluster would stick out, a space fills the
line up. -/
def takeCells (n : Nat) : List Cluster → List Char
  | [] => []
  | k :: ks =>
    if k.cells ≤ n then k.chars ++ takeCells (n - k.cells) ks
    else if n = 0 then []
    else [' ']

/-- The text with exactly `n` cells: cut off, or with spaces at its end. -/
def setWidth (n : Nat) (cs : List Char) : List Char :=
  if width cs ≤ n then padEnd n cs else takeCells n (clusters cs)

/-- The clusters in lines of at most `n` cells, after a line of `used` cells that has begun. -/
def foldClusters (n : Nat) (line : List Char) (used : Nat) : List Cluster → List (List Char)
  | [] => if used = 0 then [] else [line]
  | k :: ks =>
    if n < used + k.cells then line :: foldClusters n k.chars k.cells ks
    else foldClusters n (line ++ k.chars) (used + k.cells) ks

/-- A text without spaces in lines of at most `n` cells. -/
def foldWord (n : Nat) (cs : List Char) : List (List Char) := foldClusters n [] 0 (clusters cs)

end NoteQuery.Text
