/-!
# Similar words

Which known words a mistyped word may stand for. Two words are compared by their matching blocks: the
longest common block, and then the same on both sides of it.
-/

namespace NoteQuery.Text

/-- The length of the common beginning of two texts. -/
def commonLength : List Char → List Char → Nat
  | a :: as, b :: bs => if a = b then commonLength as bs + 1 else 0
  | _, _ => 0

/-- A common block: where it begins in either text, and its length. -/
structure Block where
  first : Nat
  second : Nat
  length : Nat

/-- The longest common block; of several, the one that begins first. -/
def longestBlock (as bs : List Char) : Block :=
  (List.range as.length).foldl (fun best i =>
    (List.range bs.length).foldl (fun best j =>
      let n := commonLength (as.drop i) (bs.drop j)
      if best.length < n then ⟨i, j, n⟩ else best) best) ⟨0, 0, 0⟩

/-- The number of characters in matching blocks, found in at most `depth` splits on top of each
other. -/
def matching : Nat → List Char → List Char → Nat
  | 0, _, _ => 0
  | depth + 1, as, bs =>
    let block := longestBlock as bs
    if block.length = 0 then 0
    else block.length +
      matching depth (as.take block.first) (bs.take block.second) +
      matching depth (as.drop (block.first + block.length)) (bs.drop (block.second + block.length))

/-- How many of a thousand characters of two words match. -/
def similarity (word known : List Char) : Nat :=
  let total := word.length + known.length
  if total = 0 then 1000 else 2000 * matching known.length known word / total

/-- At most three known words of which three in five characters match, in alphabetical order. -/
def similarWords (word : String) (known : List String) : List String :=
  let scored := (known.map fun k => (similarity word.toList k.toList, k)).filter fun s => 600 ≤ s.1
  let best := (scored.mergeSort fun s t =>
    ((compare t.1 s.1).then (compare t.2 s.2)).isLE).take 3
  (best.map Prod.snd).mergeSort fun a b => (compare a b).isLE

end NoteQuery.Text
