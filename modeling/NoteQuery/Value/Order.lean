import NoteQuery.Value.Text

/-!
# Equality and order of values

Three relations on values:

* `agrees` is the equality that conditions use. A date agrees with its literal, integers and floats
  agree by their numbers, booleans agree with booleans only.
* `order` is what sorting and the comparing conditions use. Nulls come last; two dates are ordered by
  the calendar, two numbers by their size, lists by their first difference, and values of different
  kinds by their plain texts. Where one of these texts cannot be written there is no order: `compare?`
  gives the order of values that can be compared.
* `same` is the equality of records. Booleans count as the numbers zero and one, dates have to agree
  in all their parts, and the entries of a table may stand in any order.
-/

namespace NoteQuery

namespace Value

/-! ## Numbers -/

def isNumber : Value → Bool
  | int _ => true
  | float _ => true
  | _ => false

/-- Where a number stands. What is not a number and the float `nan` stand nowhere. -/
def point? : Value → Option Binary64.Point
  | int i => some (.units (i * Binary64.unitsPerOne))
  | float x => x.point?
  | _ => none

def equalNumbers (a b : Value) : Bool :=
  match a.point?, b.point? with
  | some p, some q => p == q
  | _, _ => false

/-- The order of two numbers; `nan` comes after every number, itself included. -/
def orderNumbers (a b : Value) : Ordering :=
  match a.point?, b.point? with
  | some p, some q => p.compare q
  | _, _ => .gt

/-! ## The equality of records -/

/-- Booleans as the numbers zero and one. -/
def boolAsInt : Value → Value
  | bool b => int (if b then 1 else 0)
  | v => v

mutual

def same : Value → Value → Bool
  | null, null => true
  | text s, text t => s == t
  | date d, date e => d == e
  | list vs, list ws => sameItems vs ws
  | tuple vs, tuple ws => sameItems vs ws
  | stamp s, stamp t => s == t
  | table es, table fs => es.length == fs.length && sameEntries es fs
  | v, w => equalNumbers v.boolAsInt w.boolAsInt

def sameItems : List Value → List Value → Bool
  | [], [] => true
  | v :: vs, w :: ws => same v w && sameItems vs ws
  | _, _ => false

/-- Whether every entry of the first table has its like in the second. -/
def sameEntries : List (String × Value) → List (String × Value) → Bool
  | [], _ => true
  | (name, v) :: es, fs =>
    (match lookup? name fs with
      | some w => same v w
      | none => false) && sameEntries es fs

end

/-! ## The equality of conditions -/

mutual

def agrees : Value → Value → Bool
  | null, null => true
  | bool a, bool b => a == b
  | text s, text t => s == t
  | text s, date e => s == e.raw
  | date d, text t => d.raw == t
  | date d, date e => d.raw == e.raw
  | list vs, list ws => agreesAll vs ws
  | tuple vs, tuple ws => same (tuple vs) (tuple ws)
  | stamp s, stamp t => s == t
  | table es, table fs => same (table es) (table fs)
  | v, w => equalNumbers v w

def agreesAll : List Value → List Value → Bool
  | [], [] => true
  | v :: vs, w :: ws => agrees v w && agreesAll vs ws
  | _, _ => false

end

/-! ## The order of sorting -/

/-- The order of the calendar, whatever the literals. -/
def orderDates (d e : DateLiteral) : Ordering :=
  (compare d.year e.year).then ((compare d.month e.month).then (compare d.day e.day))

mutual

def order : Value → Value → Ordering
  | null, null => .eq
  | null, _ => .gt
  | _, null => .lt
  | date d, date e => orderDates d e
  | bool a, bool b => compare a b
  | list vs, list ws => orderItems vs ws
  | v, w =>
    if v.isNumber && w.isNumber then orderNumbers v w else compare v.plainText w.plainText

/-- The order of the first items that differ; of two lists of which one begins the other, the
shorter comes first. -/
def orderItems : List Value → List Value → Ordering
  | [], [] => .eq
  | [], _ :: _ => .lt
  | _ :: _, [] => .gt
  | v :: vs, w :: ws => (order v w).then (orderItems vs ws)

end

mutual

/-- Whether two values can be compared: where they are compared by their texts, both can be
written. -/
def isComparable : Value → Value → Bool
  | null, _ => true
  | _, null => true
  | list vs, list ws => areComparable vs ws
  | v, w => (v.isNumber && w.isNumber) || (v.isWritable && w.isWritable)

/-- Items behind the first ones that differ do not matter. -/
def areComparable : List Value → List Value → Bool
  | v :: vs, w :: ws => isComparable v w && (order v w != .eq || areComparable vs ws)
  | _, _ => true

end

/-- The order of two values that can be compared. -/
def compare? (v w : Value) : Option Ordering := if v.isComparable w then some (v.order w) else none

end Value

end NoteQuery
