import NoteQuery.Note.Record
import NoteQuery.Text.LowerCase

/-!
# Conditions

A condition tests one field of a record. A *literal* asks for a value; an *operator* compares with a
target; a *predicate* is any test that the caller supplies. A field that is missing counts as null.

Literals always have an answer. A predicate may fail, and an operator fails where it needs the text of
an integer that has too many digits to be written: in a comparison of values of different kinds, and in
a search for the text of its target.

The tests without predicates are `Operator.holds`, if `Operator.answers`, and `literalHolds`;
`Condition.test` applies any condition to a record.
-/

namespace NoteQuery

inductive Operator where
  | eq | ne | gt | gte | lt | lte | contains | notContains | within | exists | notExists
  deriving DecidableEq, Repr, Inhabited

/-- Why a condition cannot be used. -/
inductive ConditionError where
  | unknownOperator (name : String)
  | predicate (message : String)
  | hugeInteger
  deriving DecidableEq, Repr

def ConditionError.message : ConditionError → String
  | unknownOperator name => "Unknown operator: " ++ Text.quoted name
  | predicate message => message
  | hugeInteger =>
    "Exceeds the limit (" ++ toString Text.digitLimit ++
      " digits) for integer string conversion; use sys.set_int_max_str_digits() to increase the limit"

namespace Operator

def name : Operator → String
  | eq => "eq"
  | ne => "ne"
  | gt => "gt"
  | gte => "gte"
  | lt => "lt"
  | lte => "lte"
  | contains => "contains"
  | notContains => "not_contains"
  | within => "in"
  | .exists => "exists"
  | notExists => "not_exists"

def all : List Operator :=
  [eq, ne, gt, gte, lt, lte, contains, notContains, within, .exists, notExists]

/-- The signs that stand for operators. -/
def signs : List (String × Operator) :=
  [("=", eq), ("==", eq), ("!=", ne), ("<>", ne), (">", gt), (">=", gte), ("<", lt), ("<=", lte)]

/-- The operator of that name or sign. -/
def ofName (text : String) : Except ConditionError Operator :=
  match signs.lookup text with
  | some op => .ok op
  | none =>
    match all.find? (·.name == text) with
    | some op => .ok op
    | none => .error (.unknownOperator text)

/-- The operator that a value names by its text. -/
def ofValue (v : Value) : Except ConditionError Operator :=
  if v.isWritable then ofName v.bareText else .error .hugeInteger

/-- Whether a target plays no part. -/
def isUnary (op : Operator) : Bool := op == .exists || op == .notExists

/-- A text contains the plain text of a target if it occurs there in lower case; a list contains the
values that agree with one of its items. Nothing else contains anything, and no text contains null. -/
def holdsContains : Value → Value → Bool
  | .text _, .null => false
  | .text s, target => Text.hasPiece (Text.lower target.plainChars) (Text.lower s.toList)
  | .list items, target => items.any fun v => v.agrees target
  | _, _ => false

def holdsWithin (value : Value) : Value → Bool
  | .list items => items.any fun w => value.agrees w
  | _ => false

/-- Whether the operator relates the value of a field to the target. -/
def holds (op : Operator) (value target : Value) : Bool :=
  match op with
  | eq => value.agrees target
  | ne => !value.agrees target
  | gt => (value.order target).isGT
  | gte => (value.order target).isGE
  | lt => (value.order target).isLT
  | lte => (value.order target).isLE
  | contains => holdsContains value target
  | notContains => value.isNull || !holdsContains value target
  | within => holdsWithin value target
  | .exists => !value.isNull
  | notExists => value.isNull

/-- Whether the operator comes to an answer: what it compares can be compared, and the text that it
looks for in a text can be written. -/
def answers (op : Operator) (value target : Value) : Bool :=
  match op with
  | gt | gte | lt | lte => value.isComparable target
  | contains | notContains =>
    match value with
    | .text _ => target.isWritable
    | _ => true
  | _ => true

end Operator

/-- Whether a field has the value that a literal asks for. A field that is unset, or empty, counts
as false; null asks for an unset field. -/
def literalHolds (value : Value) : Value → Bool
  | .null => value.isNull
  | .bool true => match value with
    | .bool b => b
    | _ => false
  | .bool false => match value with
    | .bool b => !b
    | .null => true
    | .text s => s == ""
    | _ => false
  | expected => value.agrees expected

/-- A test supplied by a caller. Its answer counts as true or false by `Value.isTruthy`. -/
structure Predicate where
  name : String
  test : Value → Record → Except String Value

inductive Condition where
  | literal (expected : Value)
  | operator (op : Operator) (target : Value)
  | predicate (p : Predicate)

instance : Inhabited Condition := ⟨.literal .null⟩

namespace Condition

/-- The condition of an operator and a target as a caller writes it. -/
def ofOperator (op : Operator) (target : Value) : Condition := operator op target.normalize

/-- The answer of a condition for one field of a record. -/
def test (c : Condition) (r : Record) (field : String) : Except ConditionError Value :=
  match c with
  | literal expected => .ok (.bool (literalHolds (r.get field) expected))
  | operator op target =>
    if op.answers (r.get field) target then .ok (.bool (op.holds (r.get field) target))
    else .error .hugeInteger
  | predicate p =>
    match p.test (r.get field) r with
    | .ok v => .ok v
    | .error message => .error (.predicate message)

/-- The condition that a plain value writes: a table with an `op` names an operator and its target,
anything else is a literal. -/
def ofValue : Value → Except ConditionError Condition
  | .table entries =>
    match Value.lookup? "op" entries with
    | some op =>
      match Operator.ofValue op with
      | .ok op => .ok (operator op (Value.orNull (Value.lookup? "value" entries)).normalize)
      | .error e => .error e
    | none => .ok (literal (.table entries))
  | v => .ok (literal v.normalize)

end Condition

/-- What a caller may supply where values and conditions are expected. -/
inductive Input where
  | value (v : Value)
  | condition (c : Condition)
  | table (entries : List (String × Input))

instance : Inhabited Input := ⟨.value .null⟩

namespace Input

mutual

/-- The plain value of what was supplied. A condition inside a table has none and counts as null. -/
def toValue : Input → Value
  | value v => v
  | condition _ => .null
  | table entries => .table (entriesToValues entries)

def entriesToValues : List (String × Input) → List (String × Value)
  | [] => []
  | (name, i) :: es => (name, toValue i) :: entriesToValues es

end

/-- The entries, if a table was supplied. -/
def entries? : Input → Option (List (String × Input))
  | table entries => some entries
  | value (.table entries) => some (entries.map fun e => (e.1, value e.2))
  | _ => none

/-- The condition that was supplied, as it is or written as a value. -/
def toCondition : Input → Except ConditionError Condition
  | condition c => .ok c
  | i => Condition.ofValue i.toValue

def test (i : Input) (r : Record) (field : String) : Except ConditionError Value :=
  match i.toCondition with
  | .ok c => c.test r field
  | .error e => .error e

end Input

end NoteQuery
