import NoteQuery.Validation

/-!
# Queries

A query says which records to keep, in which order, how many, and which of their fields. It is
written as a table of options; `Query.ofInput` checks such a table.
-/

namespace NoteQuery

inductive SortOrder where
  | ascending
  | descending
  deriving DecidableEq, Repr, Inhabited

def SortOrder.name : SortOrder → String
  | ascending => "asc"
  | descending => "desc"

def SortOrder.choices : List (String × SortOrder) :=
  [("asc", .ascending), ("desc", .descending)]

/-- The field to sort by, if any, and the direction. -/
structure Sorting where
  field : Option String := none
  order : SortOrder := .ascending
  deriving DecidableEq, Repr, Inhabited

structure Query where
  conditions : OrderedMap Condition := .empty
  sort : Option Sorting := none
  limit : Option Int := none
  fields : Option (List String) := none

/-- A sort order as a table of options. -/
def Sorting.ofValue (v : Value) : Checked Sorting :=
  match Check.options v with
  | .ok entries =>
    Sorting.mk <$> Check.option entries "field" none (Check.optional Check.text)
      <*> Check.option entries "order" .ascending (Check.choice SortOrder.choices)
  | .faulty faults => .faulty faults

namespace Query

/-- All conditions of a table, or the error of the first that is none. -/
def conditionEntries : List (String × Input) → Except ConditionError (List (String × Condition))
  | [] => .ok []
  | (name, i) :: es =>
    match i.toCondition with
    | .error e => .error e
    | .ok c =>
      match conditionEntries es with
      | .error e => .error e
      | .ok cs => .ok ((name, c) :: cs)

/-- The conditions under `where`: nothing for null, else a table. -/
def checkConditions (i : Input) : Checked (OrderedMap Condition) :=
  match i with
  | .value .null => .ok .empty
  | i =>
    match i.entries? with
    | none => Checked.fail .notTable
    | some entries =>
      match conditionEntries entries with
      | .ok cs => .ok (OrderedMap.ofList cs)
      | .error e => Checked.fail (.refused e.message)

/-- A text is a field to sort by in ascending order. -/
def checkSort : Value → Checked (Option Sorting)
  | .null => .ok none
  | .text s => .ok (some ⟨some s, .ascending⟩)
  | v => (Sorting.ofValue v).map some

/-- The options of a query, checked one by one. -/
def ofEntries (entries : List (String × Input)) : Checked Query :=
  let values := Input.entriesToValues entries
  let conditions : Checked (OrderedMap Condition) := match entries.lookup "where" with
    | some i => (checkConditions i).within (.name "where")
    | none => .ok .empty
  Query.mk <$> conditions
    <*> Check.option values "sort" none checkSort
    <*> Check.option values "limit" none (Check.optional Check.integer)
    <*> Check.option values "fields" none (Check.optional (Check.list Check.text))

/-- A query as a caller supplies it. -/
def ofInput (i : Input) : Except Rejection Query :=
  (match i.entries? with
    | some entries => ofEntries entries
    | none => Checked.fail .notOptions).toExcept "QuerySpec"

end Query

end NoteQuery
