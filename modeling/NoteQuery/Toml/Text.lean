import NoteQuery.Text.Basic
import NoteQuery.Text.Digits

/-!
# TOML texts and keys

The lexical part of the format: comments and white space, the four kinds of strings, and keys. Every
reader takes the characters from some place on and returns what it read together with the rest.
-/

namespace NoteQuery.Toml

/-- Why a document is refused: it breaks the grammar, or an integer has more digits than can be
converted. -/
inductive Error where
  | malformed
  | hugeInteger (digits : Nat)
  deriving DecidableEq, Repr

/-- What was read, and the rest. -/
abbrev Result (α : Type) := Except Error (α × List Char)

def malformed {α : Type} : Except Error α := .error .malformed

/-! ## White space and comments -/

def isSpace (c : Char) : Bool := c == ' ' || c == '\t'

def isControl (c : Char) : Bool := c.toNat < 0x20 || c.toNat = 0x7f

def skipSpace (cs : List Char) : List Char := cs.dropWhile isSpace

/-- Skips a comment, if one begins here, up to the end of its line. -/
def skipComment (cs : List Char) : Except Error (List Char) :=
  match cs with
  | '#' :: rest =>
    let comment := rest.takeWhile (· != '\n')
    if comment.any fun c => isControl c && c != '\t' then malformed
    else .ok (rest.drop comment.length)
  | _ => .ok cs

/-- Skips white space, line ends and comments. -/
def skipFiller (inComment : Bool) : List Char → Except Error (List Char)
  | [] => .ok []
  | c :: cs =>
    if c = '\n' then skipFiller false cs
    else if inComment then
      if isControl c && c != '\t' then malformed else skipFiller true cs
    else if isSpace c then skipFiller false cs
    else if c = '#' then skipFiller true cs
    else .ok (c :: cs)

/-! ## Strings -/

/-- The one-letter escapes. -/
def escapes : List (Char × Char) :=
  [('b', Char.ofNat 8), ('t', '\t'), ('n', '\n'), ('f', Char.ofNat 12), ('r', '\r'), ('"', '"'),
    ('\\', '\\')]

/-- The character with a hexadecimal number, if there is one. -/
def hexChar? (digits : List Char) : Option Char :=
  match digits.mapM Text.hexValue? with
  | some ns =>
    let n := ns.foldl (fun n d => 16 * n + d) 0
    if n < 0xd800 || (0xdfff < n && n < 0x110000) then some (Char.ofNat n) else none
  | none => none

/-- Where a string stands: in its text, after a backslash that ends a line but for white space, or
before the first character that such a backslash does not skip. -/
inductive Mode where
  | text
  | lineEnd
  | skipping
  deriving DecidableEq

def prepend (c : Char) : Result (List Char) → Result (List Char)
  | .ok (text, rest) => .ok (c :: text, rest)
  | .error e => .error e

/-- The text of a basic string up to its closing quotes. -/
def basicBody (multiline : Bool) (mode : Mode) : List Char → Result (List Char)
  | [] => malformed
  | c :: cs =>
    if mode = .skipping && (isSpace c || c == '\n') then basicBody multiline .skipping cs
    else if mode = .lineEnd then
      if isSpace c then basicBody multiline .lineEnd cs
      else if c = '\n' then basicBody multiline .skipping cs
      else malformed
    else if c = '"' then
      if !multiline then .ok ([], cs)
      else match cs with
        | '"' :: '"' :: rest => .ok ([], rest)
        | _ => prepend '"' (basicBody multiline .text cs)
    else if c = '\\' then
      match cs with
      | 'u' :: a :: b :: c :: d :: rest =>
        match hexChar? [a, b, c, d] with
        | some x => prepend x (basicBody multiline .text rest)
        | none => malformed
      | 'U' :: a :: b :: c :: d :: e :: f :: g :: h :: rest =>
        match hexChar? [a, b, c, d, e, f, g, h] with
        | some x => prepend x (basicBody multiline .text rest)
        | none => malformed
      | e :: rest =>
        match escapes.lookup e with
        | some x => prepend x (basicBody multiline .text rest)
        | none =>
          if multiline && isSpace e then basicBody multiline .lineEnd rest
          else if multiline && e = '\n' then basicBody multiline .skipping rest
          else malformed
      | [] => malformed
    else if isControl c && c != '\t' && !(multiline && c == '\n') then malformed
    else prepend c (basicBody multiline .text cs)

def apostrophe : Char := Char.ofNat 0x27

/-- The text of a literal string up to its closing quotes. -/
def literalBody (multiline : Bool) : List Char → Result (List Char)
  | [] => malformed
  | c :: cs =>
    let closed := if multiline then [apostrophe, apostrophe].isPrefixOf cs else true
    if c = apostrophe && closed then .ok ([], if multiline then cs.drop 2 else cs)
    else if isControl c && c != '\t' && !(multiline && c == '\n') then malformed
    else prepend c (literalBody multiline cs)

/-- At most two quotes that stand before the closing ones belong to the text. -/
def extraQuotes (quote : Char) (text rest : List Char) : List Char × List Char :=
  match rest with
  | a :: b :: more =>
    if a = quote && b = quote then (text ++ [quote, quote], more)
    else if a = quote then (text ++ [quote], b :: more)
    else (text, rest)
  | [a] => if a = quote then (text ++ [quote], []) else (text, rest)
  | [] => (text, [])

/-- A line break right after the opening quotes does not count. -/
def dropBreak : List Char → List Char
  | '\n' :: cs => cs
  | cs => cs

def multilineString (quote : Char) (cs : List Char) : Result (List Char) :=
  let body := if quote = '"' then basicBody true .text (dropBreak cs)
    else literalBody true (dropBreak cs)
  match body with
  | .ok (text, rest) => .ok (extraQuotes quote text rest)
  | .error e => .error e

/-- A string on one line, whose opening quote has been read. -/
def lineString (quote : Char) (cs : List Char) : Result (List Char) :=
  if quote = '"' then basicBody false .text cs else literalBody false cs

/-- A string of any kind, whose first quote has been read. -/
def string (quote : Char) (cs : List Char) : Result (List Char) :=
  match cs with
  | a :: b :: rest =>
    if a = quote && b = quote then multilineString quote rest else lineString quote cs
  | _ => lineString quote cs

/-! ## Keys -/

abbrev Key := List String

def isBare (c : Char) : Bool := Text.isWord c || c == '-'

/-- One part of a key: bare or quoted. -/
def keyPart (cs : List Char) : Result String :=
  match cs with
  | [] => malformed
  | c :: rest =>
    if isBare c then
      let part := cs.takeWhile isBare
      .ok (String.ofList part, cs.drop part.length)
    else if c = '"' || c = apostrophe then
      match lineString c rest with
      | .ok (text, rest) => .ok (String.ofList text, rest)
      | .error e => .error e
    else malformed

/-- The parts of a key between dots, at most `fuel` of them. -/
def keyParts : Nat → List Char → Result Key
  | 0, _ => malformed
  | fuel + 1, cs =>
    match keyPart cs with
    | .error e => .error e
    | .ok (part, rest) =>
      match skipSpace rest with
      | '.' :: more =>
        match keyParts fuel (skipSpace more) with
        | .ok (parts, rest) => .ok (part :: parts, rest)
        | .error e => .error e
      | rest => .ok ([part], rest)

def key (cs : List Char) : Result Key := keyParts (cs.length + 1) cs

end NoteQuery.Toml
