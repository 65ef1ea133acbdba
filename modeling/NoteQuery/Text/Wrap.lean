import NoteQuery.Text.Basic
import NoteQuery.Text.Cluster

/-!
# Wrapping

Laying a text out in lines of a given width. Lines break after the blanks behind a word, so that the
blanks stay at the end of the line unless they stick out. What becomes of a word that no line can hold
is a choice: it is folded over several lines, or stands on a line of its own that is cut short.
-/

namespace NoteQuery.Text

/-- What becomes of what does not fit: it goes on in the next line, or dots stand for it. -/
inductive Overflow where
  | fold
  | ellipsis
  deriving DecidableEq, Repr

/-- Where the text of a line stands. `natural` lines are not filled up. -/
inductive Justify where
  | natural
  | left
  | center
  | right
  deriving DecidableEq, Repr

/-- The text without the control characters that move a cursor or ring a bell. -/
def printed (cs : List Char) : List Char :=
  cs.filter fun c => !([7, 8, 11, 12, 13].contains c.toNat)

/-! ## Tabs -/

/-- The pieces between tabs, each but the last filled up to a multiple of eight cells, and with one
space at least. -/
def fillTabs (position : Nat) : List (List Char) → List Char
  | [] => []
  | [piece] => piece
  | piece :: pieces =>
    let stop := position + width piece + 1
    let filled := (stop + 7) / 8 * 8
    piece ++ spaces (1 + (filled - stop)) ++ fillTabs filled pieces

/-- The line with spaces in place of its tabs. -/
def expandTabs (line : List Char) : List Char := fillTabs 0 (line.splitOn '\t')

/-! ## Words -/

/-- The blanks at the start of a text and the words after them, each with the blanks behind it. -/
def blanksAndWords : List Char → List Char × List (List Char)
  | [] => ([], [])
  | c :: cs =>
    let (blanks, words) := blanksAndWords cs
    if isBlank c then (c :: blanks, words)
    else match blanks, words with
      | [], w :: ws => ([], (c :: w) :: ws)
      | [], [] => ([], [[c]])
      | b :: bs, ws => ([], (c :: b :: bs) :: ws)

/-- The words of a text; the first one takes the blanks before it. A blank text has no words. -/
def words (cs : List Char) : List (List Char) :=
  match blanksAndWords cs with
  | (_, []) => []
  | (blanks, w :: ws) => (blanks ++ w) :: ws

/-! ## Lines -/

/-- A piece of a text, and whether a new line starts with it. -/
structure Piece where
  breaks : Bool
  chars : List Char

/-- The pieces that words make, after `used` cells of a line. -/
def pieces (n : Nat) (overflow : Overflow) (used : Nat) : List (List Char) → List Piece
  | [] => []
  | w :: ws =>
    let bare := width (trimEnd w)
    if used + bare ≤ n then ⟨false, w⟩ :: pieces n overflow (used + width w) ws
    else if n < bare && overflow = .fold then
      let parts := foldWord n w
      parts.map (Piece.mk true) ++ pieces n overflow (width (parts.getLastD [])) ws
    else ⟨true, w⟩ :: pieces n overflow (width w) ws

/-- Joins pieces to lines, after a line that has begun. Nothing breaks where there is no text yet. -/
def joinPieces (line : List Char) : List Piece → List (List Char)
  | [] => [line]
  | p :: ps =>
    if p.breaks && !line.isEmpty then line :: joinPieces p.chars ps
    else joinPieces (line ++ p.chars) ps

/-- Cuts a line at its words. A blank line stays as it is. -/
def breakLine (n : Nat) (overflow : Overflow) (line : List Char) : List (List Char) :=
  match words line with
  | [] => [line]
  | ws => joinPieces [] (pieces n overflow 0 ws)

/-- The line without those blanks at its end by which it has more than `n` characters. -/
def dropExcess (n : Nat) (line : List Char) : List Char :=
  let blanks := line.length - (trimEnd line).length
  line.take (line.length - min blanks (line.length - n))

/-- The line in at most `n` cells. -/
def truncate (n : Nat) (overflow : Overflow) (line : List Char) : List Char :=
  if width line ≤ n then line
  else match overflow with
    | .fold => setWidth n line
    | .ellipsis => setWidth (n - 1) line ++ ['…']

def justified (n : Nat) (overflow : Overflow) (justify : Justify) (line : List Char) : List Char :=
  match justify with
  | .natural => line
  | .left => padEnd n (truncate n overflow line)
  | .center =>
    let text := truncate n overflow (trimEnd line)
    padEnd n (spaces ((n - width text) / 2) ++ text)
  | .right =>
    let text := truncate n overflow (trimEnd line)
    spaces (n - width text) ++ text

/-- A text in lines of at most `n` cells. -/
def wrap (n : Nat) (overflow : Overflow) (justify : Justify) (cs : List Char) :
    List (List Char) :=
  (cs.splitOn '\n').flatMap fun line =>
    (breakLine n overflow (expandTabs line)).map fun line =>
      truncate n overflow (justified n overflow justify (dropExcess n line))

end NoteQuery.Text
