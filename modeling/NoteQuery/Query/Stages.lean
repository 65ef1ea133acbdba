import NoteQuery.Query.Spec

/-!
# The stages of a query

A query runs in four stages, in this order: keep the records that meet every condition, sort them,
cut the list off, and project each record to some fields. A stage whose part of the query is absent
changes nothing. A query fails if a condition does, which may be a predicate, an operator that does not
exist or one that needs the text of an integer with too many digits, and if such a text is needed to
compare two of the keys that it sorts by.
-/

namespace NoteQuery

/-! ## Keeping -/

/-- Whether a record meets every condition; they are tried in order until one is not met. -/
def Record.meets (r : Record) : List (String × Input) → Except ConditionError Bool
  | [] => .ok true
  | (field, i) :: rest =>
    match i.test r field with
    | .error e => .error e
    | .ok answer => if answer.isTruthy then r.meets rest else .ok false

namespace Stage

/-- The records that meet every condition. -/
def filter (conditions : List (String × Input)) : List Record → Except ConditionError (List Record)
  | [] => .ok []
  | r :: rs =>
    match r.meets conditions with
    | .error e => .error e
    | .ok keep =>
      match filter conditions rs with
      | .error e => .error e
      | .ok kept => .ok (if keep then r :: kept else kept)

/-! ## Sorting -/

/-- The order of two keys. Null comes last in both directions. -/
def orderKeys (order : SortOrder) (a b : Value) : Ordering :=
  match order with
  | .ascending => a.order b
  | .descending => if a.isNull || b.isNull then a.order b else (a.order b).swap

/-- The records by the order of one field; records whose keys are equal keep their order. All stable
sorts come to the same if the order is a total preorder on the keys. If it is none, as on 10, the text
`9` and 9, or on `nan`, each may come to another result, and this one is merge sort. -/
def sorted (s : Option Sorting) (records : List Record) : List Record :=
  match s with
  | some ⟨some field, order⟩ =>
    if field = "" then records
    else records.mergeSort fun r s => (orderKeys order (r.get field) (s.get field)).isLE
  | _ => records

/-- Whether any two of the keys can be compared. Keys that can be written can. -/
def mutuallyComparable (keys : List Value) : Bool :=
  keys.all Value.isWritable || decide (keys.Pairwise fun v w => v.isComparable w)

/-- Whether the keys that the records are sorted by, if any, can be compared. -/
def sortable (s : Option Sorting) (records : List Record) : Bool :=
  match s with
  | some ⟨some field, _⟩ => field = "" || mutuallyComparable (records.map fun r => r.get field)
  | _ => true

/-- Sorts by one field. A sort fails when it comes across two keys that cannot be compared. Which pairs
it comes across is its own affair; this one comes across all of them. -/
def sort (s : Option Sorting) (records : List Record) : Except ConditionError (List Record) :=
  if sortable s records then .ok (sorted s records) else .error .hugeInteger

/-! ## Cutting off -/

/-- The first records, if the limit is positive. -/
def limit (n : Option Int) (records : List Record) : List Record :=
  match n with
  | some n => if 0 < n then records.take n.toNat else records
  | none => records

/-! ## Projecting -/

/-- The part of a file's identity that a field name stands for. -/
def reserved (file : FileIdentity) (name : String) : Option String :=
  if name = "title" then file.title
  else if name = "name" then file.name
  else if name = "path" then file.path
  else none

/-- The value of a record under a name; the identity of the file comes before the fields. -/
def projected (r : Record) (name : String) : Value :=
  match reserved r.file name with
  | some s => .text s
  | none => r.get name

def project (names : List String) (r : Record) : Record :=
  ⟨r.file, OrderedMap.ofList (names.map fun name => (name, projected r name))⟩

/-- Projects every record, unless there are no names. -/
def select (names : Option (List String)) (records : List Record) : List Record :=
  match names with
  | some (name :: names) => records.map (project (name :: names))
  | _ => records

end Stage

namespace Query

/-- The conditions as a filter takes them. -/
def inputs (q : Query) : List (String × Input) :=
  q.conditions.entries.map fun e => (e.1, .condition e.2)

/-- Runs a query over a list of records. -/
def run (q : Query) (records : List Record) : Except ConditionError (List Record) :=
  match Stage.filter q.inputs records with
  | .error e => .error e
  | .ok kept =>
    match Stage.sort q.sort kept with
    | .error e => .error e
    | .ok sorted => .ok (Stage.select q.fields (Stage.limit q.limit sorted))

/-- Why a query that a caller supplies finds nothing: it is rejected, or a condition or the sorting
fails. -/
inductive Refusal where
  | rejected (r : Rejection)
  | failed (e : ConditionError)
  deriving DecidableEq, Repr

/-- Checks the query that a caller supplies, if any, and runs it. -/
def execute (supplied : Option Input) (records : List Record) : Except Refusal (List Record) :=
  match supplied.elim (.ok {}) ofInput with
  | .error r => .error (.rejected r)
  | .ok q =>
    match q.run records with
    | .error e => .error (.failed e)
    | .ok rows => .ok rows

end Query

end NoteQuery
