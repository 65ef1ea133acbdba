import NoteQuery.Binary64.Basic
import NoteQuery.Calendar

/-!
# Field values

What a field of a note, or a setting, can hold. A note yields nulls, booleans, numbers, texts, dates
and flat lists of these. Callers and configuration files may supply stamps, tuples and tables as
well; `normalize` brings what they supply to the values of notes where there is a counterpart.
-/

namespace NoteQuery

inductive Value where
  | null
  | bool (b : Bool)
  | int (i : Int)
  | float (x : Binary64)
  | text (s : String)
  | date (d : DateLiteral)
  | list (items : List Value)
  | tuple (items : List Value)
  | stamp (s : Stamp)
  | table (entries : List (String × Value))
  deriving Repr, Inhabited

namespace Value

def isNull : Value → Bool
  | null => true
  | _ => false

/-- Null, false, zero and what is empty count as false, every other value as true. -/
def isTruthy : Value → Bool
  | null => false
  | bool b => b
  | int i => i != 0
  | float x => !x.isZero
  | text s => s != ""
  | list items => !items.isEmpty
  | tuple items => !items.isEmpty
  | table entries => !entries.isEmpty
  | date _ => true
  | stamp _ => true

/-- The value that is there, or null. -/
def orNull : Option Value → Value
  | some v => v
  | none => null

/-- The value under a name of a table. -/
def lookup? (name : String) (entries : List (String × Value)) : Option Value :=
  entries.lookup name

mutual

/-- Days and moments become date literals and tuples become lists, at any depth of lists. -/
def normalize : Value → Value
  | list items => list (normalizeAll items)
  | tuple items => list (normalizeAll items)
  | stamp (.day d) => date d.toLiteral
  | stamp (.moment d _ _) => date d.toLiteral
  | v => v

def normalizeAll : List Value → List Value
  | [] => []
  | v :: vs => normalize v :: normalizeAll vs

end

theorem normalizeAll_eq_map (vs : List Value) : normalizeAll vs = vs.map normalize := by
  induction vs with
  | nil => rfl
  | cons v vs ih => simp [normalizeAll, ih]

end Value

end NoteQuery
