/-!
# UTF-8

Decoding bytes. The first sequence that is no character is a fault: it has a place, a length, and a
reason. A sequence that begins well is at fault as far as it is good.
-/

namespace NoteQuery.Utf8

inductive Reason where
  | badStart
  | badContinuation
  | unexpectedEnd
  deriving DecidableEq, Repr

/-- A faulty sequence of `length` bytes that starts at `position` with `byte`. -/
structure Fault where
  position : Nat
  length : Nat
  byte : UInt8
  reason : Reason
  deriving DecidableEq, Repr

def Reason.message : Reason → String
  | badStart => "invalid start byte"
  | badContinuation => "invalid continuation byte"
  | unexpectedEnd => "unexpected end of data"

def hexByte (b : UInt8) : String :=
  String.ofList [Nat.digitChar (b.toNat / 16), Nat.digitChar (b.toNat % 16)]

def Fault.message (f : Fault) : String :=
  let place :=
    if f.length = 1 then "byte 0x" ++ hexByte f.byte ++ " in position " ++ toString f.position
    else "bytes in position " ++ toString f.position ++ "-" ++ toString (f.position + f.length - 1)
  "'utf-8' codec can't decode " ++ place ++ ": " ++ f.reason.message

/-- The ranges of the bytes that have to follow a first byte, if it starts a sequence of several. -/
def following (b : UInt8) : Option (List (Nat × Nat)) :=
  let n := b.toNat
  let tail : Nat × Nat := (0x80, 0xbf)
  if 0xc2 ≤ n && n ≤ 0xdf then some [tail]
  else if n = 0xe0 then some [(0xa0, 0xbf), tail]
  else if n = 0xed then some [(0x80, 0x9f), tail]
  else if 0xe1 ≤ n && n ≤ 0xef then some [tail, tail]
  else if n = 0xf0 then some [(0x90, 0xbf), tail, tail]
  else if 0xf1 ≤ n && n ≤ 0xf3 then some [tail, tail, tail]
  else if n = 0xf4 then some [(0x80, 0x8f), tail, tail]
  else none

/-- A sequence that has begun: where, with which byte, how many bytes were read, what they mean, and
which ranges the next bytes must lie in. -/
structure Pending where
  position : Nat
  byte : UInt8
  read : Nat
  value : Nat
  ranges : List (Nat × Nat)

/-- The bits of a first byte that belong to the character. -/
def leadBits (b : UInt8) (more : Nat) : Nat :=
  b.toNat % Nat.pow 2 (6 - more)

def Pending.fault (p : Pending) (reason : Reason) : Fault := ⟨p.position, p.read, p.byte, reason⟩

/-- Starts a sequence, or reads a character of one byte. -/
def start (position : Nat) (b : UInt8) : Except Fault (Option Char × Option Pending) :=
  if b.toNat < 0x80 then .ok (some (Char.ofNat b.toNat), none)
  else match following b with
    | some ranges => .ok (none, some ⟨position, b, 1, leadBits b ranges.length, ranges⟩)
    | none => .error ⟨position, 1, b, .badStart⟩

/-- Decodes bytes from a position on, inside a sequence or between two. -/
def decodeFrom (position : Nat) (pending : Option Pending) : List UInt8 → Except Fault (List Char)
  | [] =>
    match pending with
    | none => .ok []
    | some p => .error (p.fault .unexpectedEnd)
  | b :: bs =>
    match pending with
    | none =>
      match start position b with
      | .error f => .error f
      | .ok (c, pending) => (decodeFrom (position + 1) pending bs).map (c.toList ++ ·)
    | some p =>
      match p.ranges with
      | [] => .error (p.fault .badContinuation)
      | (low, high) :: ranges =>
        if low ≤ b.toNat && b.toNat ≤ high then
          let value := p.value * 64 + b.toNat % 64
          if ranges.isEmpty then
            (decodeFrom (position + 1) none bs).map (Char.ofNat value :: ·)
          else decodeFrom (position + 1) (some ⟨p.position, p.byte, p.read + 1, value, ranges⟩) bs
        else .error (p.fault .badContinuation)

/-- The text that the bytes encode. -/
def decode (bytes : List UInt8) : Except Fault (List Char) := decodeFrom 0 none bytes

/-- The bytes of a text. -/
def encode (s : String) : List UInt8 := s.toUTF8.toList

/-- Every way of ending a line becomes a line feed. -/
def joinNewlines : List Char → List Char
  | '\r' :: '\n' :: cs => '\n' :: joinNewlines cs
  | '\r' :: cs => '\n' :: joinNewlines cs
  | c :: cs => c :: joinNewlines cs
  | [] => []

end NoteQuery.Utf8
