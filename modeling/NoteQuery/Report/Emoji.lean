import NoteQuery.Report.EmojiTable
import NoteQuery.Text.Basic
import NoteQuery.Text.LowerCase

/-!
# Emoji codes

A name between colons stands for an emoji. The name may end in `-text` or `-emoji`, which asks for one
of the two looks of the character. What is between colons and is not the name of an emoji stays as it
is, colons included, and its second colon opens no further code.
-/

namespace NoteQuery.Emoji

/-- Takes two neighbours at a time. -/
def pairUp : List (List Char) → List (List Char × List Char)
  | name :: emoji :: rest => (name, emoji) :: pairUp rest
  | _ => []

/-- Names stand between colons, so that a colon is no part of a word of the table. -/
def partsWords (c : Char) : Bool := c.toNat ≤ 0x20 || c == ':'

/-- The words of a line of the table. -/
def words (line : String) : List (List Char) :=
  (line.toList.splitOnP partsWords).filter (· ≠ [])

/-- The names in lower case and their emoji. -/
def entries : List (List Char × List Char) := table.flatMap fun line => pairUp (words line)

/-- The looks that a name may ask for, with the selectors that give them. -/
def looks : List (List Char × List Char) :=
  [("-text".toList, [Char.ofNat 0xfe0e]), ("-emoji".toList, [Char.ofNat 0xfe0f])]

/-- The emoji of a code without its colons. -/
def ofCode? (code : List Char) : Option (List Char) :=
  let (name, look) := match looks.find? fun l => l.1.isSuffixOf code with
    | some l => (Text.withoutEnd l.1 code, l.2)
    | none => (code, [])
  (entries.lookup (Text.lower name)).map (· ++ look)

/-- What a pair of colons with `code` between them becomes. -/
def replaced (code : List Char) : List Char :=
  (ofCode? code).getD (':' :: code ++ [':'])

/-- Replaces the codes of a text. After an opening colon, the code read so far stands in `pending`
in reverse. -/
def replaceAfter (pending : Option (List Char)) : List Char → List Char
  | [] => match pending with
    | none => []
    | some code => ':' :: code.reverse
  | c :: cs =>
    match pending with
    | none => if c = ':' then replaceAfter (some []) cs else c :: replaceAfter none cs
    | some code =>
      if c = ':' then replaced code.reverse ++ replaceAfter none cs
      else if Text.isBlank c then ':' :: code.reverse ++ c :: replaceAfter none cs
      else replaceAfter (some (c :: code)) cs

/-- The text with every emoji code replaced. -/
def replace (cs : List Char) : List Char := replaceAfter none cs

end NoteQuery.Emoji
