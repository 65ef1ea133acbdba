import NoteQuery.Text.Printable

/-!
# Quoted text

How a message shows a text it talks about: between single quotes, or between double quotes if the
text holds single ones only, with everything that cannot be printed escaped.
-/

namespace NoteQuery.Text

/-- The last `width` hexadecimal digits of a number. -/
def hex : Nat → Nat → List Char
  | 0, _ => []
  | width + 1, n => hex width (n / 16) ++ [Nat.digitChar (n % 16)]

def singleQuote : Char := Char.ofNat 0x27

/-- Double quotes are chosen only if they save escaping. -/
def quoteFor (cs : List Char) : Char :=
  if cs.contains singleQuote && !cs.contains '"' then '"' else singleQuote

/-- One character of a quoted text. -/
def escape (quote c : Char) : List Char :=
  if c = quote || c = '\\' then ['\\', c]
  else if c = '\n' then ['\\', 'n']
  else if c = '\r' then ['\\', 'r']
  else if c = '\t' then ['\\', 't']
  else if isPrintable c then [c]
  else if c.toNat < 0x100 then '\\' :: 'x' :: hex 2 c.toNat
  else if c.toNat < 0x10000 then '\\' :: 'u' :: hex 4 c.toNat
  else '\\' :: 'U' :: hex 8 c.toNat

def quotedChars (cs : List Char) : List Char :=
  let quote := quoteFor cs
  quote :: cs.flatMap (escape quote) ++ [quote]

/-- The text as a message shows it. -/
def quoted (s : String) : String := String.ofList (quotedChars s.toList)

end NoteQuery.Text
