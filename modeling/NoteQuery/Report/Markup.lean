import NoteQuery.Report.Emoji

/-!
# Markup

Headings may hold style tags in brackets, such as `[bold]` and `[/bold]`, and emoji codes. Reports are
plain, so tags leave nothing behind; but they have to be balanced. A backslash before a tag makes it
text, and a bracket that opens no tag is text.
-/

namespace NoteQuery.Markup

/-- A closing tag that closes nothing, at a position of the text. -/
inductive Error where
  | unmatched (tag : String) (position : Nat)
  | nothingOpen (position : Nat)
  deriving DecidableEq, Repr

def Error.message : Error → String
  | unmatched tag position =>
    "closing tag '" ++ tag ++ "' at position " ++ toString position ++
      " doesn't match any open tag"
  | nothingOpen position =>
    "closing tag '[/]' at position " ++ toString position ++ " has nothing to close"

/-! ## Pieces -/

/-- A stretch of text, or a tag with its position and what is between its brackets. -/
inductive Piece where
  | text (cs : List Char)
  | tag (position : Nat) (body : List Char)
  deriving Repr

def startsTag (c : Char) : Bool :=
  ('a' ≤ c && c ≤ 'z') || c == '#' || c == '/' || c == '@'

/-- The body of a tag whose opening bracket has just been read. -/
def tagBody? : List Char → Option (List Char)
  | [] => none
  | c :: cs =>
    let rest := cs.takeWhile fun d => d != '[' && d != ']'
    if startsTag c && (cs.drop rest.length).head? = some ']' then some (c :: rest) else none

def textPiece (reversed : List Char) : List Piece :=
  if reversed.isEmpty then [] else [.text reversed.reverse]

/-- A tag after `slashes` backslashes, of which every two stand for one; one that is left over makes
the tag a text. -/
def tagPieces (position slashes : Nat) (body : List Char) : List Piece :=
  let plain : List Piece :=
    if slashes < 2 then [] else [.text (List.replicate (slashes / 2) '\\')]
  plain ++
    if slashes % 2 = 1 then [.text ('[' :: body ++ [']'])]
    else [.tag (position + slashes) body]

/-- The pieces of the characters from a position on. The text before them that belongs to no piece
yet is `before`, in reverse; the last `slashes` characters of the input were backslashes and are not
part of it; the next `skip` characters belong to the last tag. -/
def piecesAfter (position : Nat) (before : List Char) (slashes skip : Nat) :
    List Char → List Piece
  | [] => textPiece (List.replicate slashes '\\' ++ before)
  | c :: cs =>
    if 0 < skip then piecesAfter (position + 1) before 0 (skip - 1) cs
    else if c = '\\' then piecesAfter (position + 1) before (slashes + 1) 0 cs
    else if c = '[' then
      match tagBody? cs with
      | some body =>
        textPiece before ++ tagPieces (position - slashes) slashes body ++
          piecesAfter (position + 1) [] 0 (body.length + 1) cs
      | none =>
        piecesAfter (position + 1) (c :: (List.replicate slashes '\\' ++ before)) 0 0 cs
    else piecesAfter (position + 1) (c :: (List.replicate slashes '\\' ++ before)) 0 0 cs

def pieces (cs : List Char) : List Piece := piecesAfter 0 [] 0 0 cs

/-! ## Styles -/

/-- The attributes of a style, in the order in which a style lists them, with their short names. -/
def attributes : List (String × List String) :=
  [("bold", ["b"]), ("dim", ["d"]), ("italic", ["i"]), ("underline", ["u"]), ("blink", []),
    ("blink2", []), ("reverse", ["r"]), ("conceal", ["c"]), ("strike", ["s"]),
    ("underline2", ["uu"]), ("frame", []), ("encircle", []), ("overline", ["o"])]

/-- The words of a text. -/
def splitBlanks (cs : List Char) : List (List Char) :=
  ((cs.map fun c => if Text.isBlank c then ' ' else c).splitOn ' ').filter (· ≠ [])

/-- The name under which a style is opened and closed: its attributes in order and in full, then all
other words. -/
def styleName (cs : List Char) : List String :=
  let words := (splitBlanks (Text.lower cs)).map String.ofList
  let isAttribute (a : String × List String) (w : String) : Bool := a.1 == w || a.2.contains w
  (attributes.filter fun a => words.any (isAttribute a)).map Prod.fst ++
    words.filter fun w => !attributes.any fun a => isAttribute a w

/-! ## Text without tags -/

/-- The text of a stretch between tags: an escaped bracket is a bracket. -/
def unescape : List Char → List Char
  | '\\' :: '[' :: cs => '[' :: unescape cs
  | c :: cs => c :: unescape cs
  | [] => []

/-- The open styles after a tag, the last one first. -/
def close (opened : List (List String)) (position : Nat) (body : List Char) :
    Except Error (List (List String)) :=
  match body.takeWhile (· != '=') with
  | '/' :: name =>
    if (Text.trim name).isEmpty then
      match opened with
      | [] => .error (.nothingOpen position)
      | _ :: rest => .ok rest
    else if opened.contains (styleName name) then .ok (opened.erase (styleName name))
    else .error (.unmatched (String.ofList ('[' :: body ++ [']'])) position)
  | name => .ok (styleName name :: opened)

def textsAfter (opened : List (List String)) : List Piece → Except Error (List Char)
  | [] => .ok []
  | .text cs :: ps =>
    match textsAfter opened ps with
    | .ok rest => .ok (Emoji.replace (unescape cs) ++ rest)
    | .error e => .error e
  | .tag position body :: ps =>
    match close opened position body with
    | .ok opened => textsAfter opened ps
    | .error e => .error e

/-- What a heading shows: its text without tags and with its emoji. -/
def plain (cs : List Char) : Except Error (List Char) := textsAfter [] (pieces cs)

end NoteQuery.Markup
