import NoteQuery.Condition.Basic
import NoteQuery.Text.Basic
import NoteQuery.Text.Digits

/-!
# Validation

Options come as values of any kind and are brought to the types that the library works with. What
cannot be brought there is a *fault* at a place: the path of names and positions that leads to it.
All faults of a table are reported, in the order of its options.
-/

namespace NoteQuery

/-- A step on the way to a faulty value. -/
inductive Step where
  | name (s : String)
  | index (n : Nat)
  deriving DecidableEq, Repr

/-- Why a value is refused. -/
inductive Reason where
  | notChoice | notText | notInteger | badInteger | fractionalInteger | hugeInteger | notFinite
  | badBool | notBool | notList | notTable | notOptions | notPath | missing | tooSmall | unknownName
  | refused (message : String)
  deriving DecidableEq, Repr

structure Fault where
  place : List Step
  reason : Reason
  deriving DecidableEq, Repr

/-- A table of options that was refused, with every fault. -/
structure Rejection where
  model : String
  faults : List Fault
  deriving DecidableEq, Repr

def Rejection.message (r : Rejection) : String :=
  toString r.faults.length ++ " validation error" ++ (if r.faults.length = 1 then "" else "s") ++
    " for " ++ r.model

/-- A result, or all the faults that stand in its way. -/
inductive Checked (α : Type) where
  | ok (a : α)
  | faulty (faults : List Fault)

namespace Checked

variable {α β : Type}

/-- A single fault at the value itself. -/
def fail (reason : Reason) : Checked α := faulty [⟨[], reason⟩]

def map (f : α → β) : Checked α → Checked β
  | ok a => ok (f a)
  | faulty faults => faulty faults

/-- Faults of both sides are collected. -/
def seq (f : Checked (α → β)) (x : Checked α) : Checked β :=
  match f, x with
  | ok f, ok a => ok (f a)
  | ok _, faulty faults => faulty faults
  | faulty faults, ok _ => faulty faults
  | faulty faults, faulty more => faulty (faults ++ more)

instance : Applicative Checked where
  pure := ok
  map := map
  seq f x := seq f (x ())

/-- The faults of a part are faults of the whole one step further in. -/
def within (step : Step) : Checked α → Checked α
  | ok a => ok a
  | faulty faults => faulty (faults.map fun f => ⟨step :: f.place, f.reason⟩)

def toExcept (model : String) : Checked α → Except Rejection α
  | ok a => .ok a
  | faulty faults => .error ⟨model, faults⟩

/-- Every item of a list, with the faults of all of them. -/
def each (check : α → Checked β) (items : List α) : Checked (List β) :=
  (items.zipIdx.foldr (fun (a, n) rest =>
    seq (map List.cons (within (.index n) (check a))) rest) (ok []))

/-- Every entry of a table, with the faults of all of them. -/
def eachEntry (check : α → Checked β) (entries : List (String × α)) : Checked (List (String × β)) :=
  entries.foldr (fun (name, a) rest =>
    seq (map (fun b bs => (name, b) :: bs) (within (.name name) (check a))) rest) (ok [])

end Checked

namespace Check

open Checked

variable {α : Type}

def text : Value → Checked String
  | .text s => .ok s
  | _ => fail .notText

/-- A value, or nothing for null. -/
def optional (check : Value → Checked α) : Value → Checked (Option α)
  | .null => .ok none
  | v => (check v).map some

/-- Lists and tuples. -/
def list (check : Value → Checked α) : Value → Checked (List α)
  | .list items => each check items
  | .tuple items => each check items
  | _ => fail .notList

/-- One of a few words. -/
def choice (choices : List (String × α)) : Value → Checked α
  | .text s =>
    match choices.lookup s with
    | some a => .ok a
    | none => fail .notChoice
  | _ => fail .notChoice

/-! ## Integers -/

/-- White space around the digits of an integer. -/
def isSpace (c : Char) : Bool :=
  Text.isBlank c && !(0x1c ≤ c.toNat && c.toNat ≤ 0x1f)

/-- An integer as a text: blanks around it, a sign, and zeros after a point are allowed. -/
def integerText (s : String) : Checked Int :=
  let spaced := s.toList
  let cs := (((spaced.dropWhile isSpace).reverse).dropWhile isSpace).reverse
  if Text.digitLimit < cs.length then fail .hugeInteger
  else
    let (negative, body) := Text.takeSign cs
    let whole := body.takeWhile (· != '.')
    let zeros := (body.dropWhile (· != '.')).drop 1
    match Text.groupedDigits? whole with
    | some digits =>
      if zeros.all (· == '0') then
        let n : Int := Text.natOfDigits digits
        .ok (if negative then -n else n)
      else fail .badInteger
    | none => fail .badInteger

/-- Integers that fit 64 bits may come as floats, and booleans count as zero and one. -/
def integer : Value → Checked Int
  | .int i => .ok i
  | .bool b => .ok (if b then 1 else 0)
  | .text s => integerText s
  | .float (.finite negative units) =>
    match (Binary64.finite negative units).toInt? with
    | some i => if i.natAbs < Nat.pow 2 63 then .ok i else fail .hugeInteger
    | none => fail .fractionalInteger
  | .float _ => fail .notFinite
  | _ => fail .notInteger

/-- Integers that are not below `least`. -/
def integerFrom (least : Int) (v : Value) : Checked Int :=
  match integer v with
  | .ok i => if least ≤ i then .ok i else fail .tooSmall
  | .faulty faults => .faulty faults

/-! ## Booleans -/

def trueWords : List String := ["1", "on", "t", "true", "y", "yes"]

def falseWords : List String := ["0", "off", "f", "false", "n", "no"]

/-- Booleans may come as words in any case and as the numbers zero and one. -/
def bool : Value → Checked Bool
  | .bool b => .ok b
  | .text s =>
    let word := s.map Char.toLower
    if trueWords.contains word then .ok true
    else if falseWords.contains word then .ok false
    else fail .badBool
  | .int i => if i = 1 then .ok true else if i = 0 then .ok false else fail .badBool
  | .float x =>
    match x.toInt? with
    | some i => if i = 1 then .ok true else if i = 0 then .ok false else fail .badBool
    | none => fail .notBool
  | _ => fail .notBool

/-! ## Tables -/

/-- The entries of a table of options. -/
def options (v : Value) : Checked (List (String × Value)) :=
  match v with
  | .table entries => .ok entries
  | _ => fail .notOptions

/-- One option of a table, or its default if it is not there. -/
def option (entries : List (String × Value)) (name : String) (default : α)
    (check : Value → Checked α) : Checked α :=
  match Value.lookup? name entries with
  | some v => within (.name name) (check v)
  | none => .ok default

/-- An option that has to be there. -/
def required (entries : List (String × Value)) (name : String) (check : Value → Checked α) :
    Checked α :=
  match Value.lookup? name entries with
  | some v => within (.name name) (check v)
  | none => within (.name name) (fail .missing)

/-- A table of any values. -/
def table (v : Value) : Checked (List (String × Value)) :=
  match v with
  | .table entries => .ok entries
  | _ => fail .notTable

end Check

end NoteQuery
