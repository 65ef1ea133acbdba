/-!
# Text as lists of characters

The reading rules of this library are stated on lists of characters: what counts as blank, how a
text is trimmed, cut at commas and searched.

* `trimEnd_append_blanks`: blanks at the end of a text do not count.
-/

namespace NoteQuery.Text

/-- White space and the four information separators. -/
def isBlank (c : Char) : Bool :=
  let n := c.toNat
  (0x09 ≤ n && n ≤ 0x0d) || (0x1c ≤ n && n ≤ 0x20) || n == 0x85 || n == 0xa0 || n == 0x1680 ||
    (0x2000 ≤ n && n ≤ 0x200a) || n == 0x2028 || n == 0x2029 || n == 0x202f || n == 0x205f ||
    n == 0x3000

/-- The characters of field names. -/
def isWord (c : Char) : Bool :=
  ('a' ≤ c && c ≤ 'z') || ('A' ≤ c && c ≤ 'Z') || ('0' ≤ c && c ≤ '9') || c == '_'

/-! ## Trimming -/

def trimStart (cs : List Char) : List Char := cs.dropWhile isBlank

def trimEnd : List Char → List Char
  | [] => []
  | c :: cs =>
    match trimEnd cs with
    | [] => if isBlank c then [] else [c]
    | d :: ds => c :: d :: ds

/-- The text without the blanks at either end. -/
def trim (cs : List Char) : List Char := trimEnd (trimStart cs)

theorem trimEnd_eq_nil_of_blank {cs : List Char} (h : ∀ c ∈ cs, isBlank c) : trimEnd cs = [] := by
  induction cs with
  | nil => rfl
  | cons c cs ih => simp_all [trimEnd]

theorem trimEnd_append_blanks (cs : List Char) {bs : List Char} (h : ∀ c ∈ bs, isBlank c) :
    trimEnd (cs ++ bs) = trimEnd cs := by
  induction cs with
  | nil => simpa [trimEnd] using trimEnd_eq_nil_of_blank h
  | cons c cs ih => simp [trimEnd, ih]

/-- The text without one carriage return at its end. -/
def withoutReturn : List Char → List Char
  | [] => []
  | [c] => if c = '\r' then [] else [c]
  | c :: d :: cs => c :: withoutReturn (d :: cs)

/-- The lines of a text, each without a carriage return at its end. -/
def lines (cs : List Char) : List (List Char) := (cs.splitOn '\n').map withoutReturn

/-- The trimmed pieces between commas, without the empty ones. -/
def commaItems (cs : List Char) : List (List Char) :=
  ((cs.splitOn ',').map trim).filter (· ≠ [])

/-! ## Searching -/

/-- Whether `piece` occurs in the text without a gap. -/
def hasPiece (piece : List Char) : List Char → Bool
  | [] => piece.isEmpty
  | c :: cs => piece.isPrefixOf (c :: cs) || hasPiece piece cs

/-- The text with `piece` taken off its end, if it is there. -/
def withoutEnd (piece cs : List Char) : List Char :=
  if piece.isSuffixOf cs then cs.take (cs.length - piece.length) else cs

/-- What follows the last separator. -/
def afterLast (sep : Char) (cs : List Char) : List Char :=
  (cs.splitOn sep).getLastD []

end NoteQuery.Text
