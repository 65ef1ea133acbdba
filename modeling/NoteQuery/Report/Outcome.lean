import NoteQuery.Validation

/-!
# Outcomes

What an operation on a vault comes to: data to show, warnings, or a failure with a code, a message
and details.
-/

namespace NoteQuery

structure Failure where
  code : String
  message : String
  detail : List (String × Value) := []
  deriving Inhabited

structure Outcome where
  ok : Bool
  op : String
  data : List (String × Value) := []
  warnings : List String := []
  failure : Option Failure := none
  deriving Inhabited

namespace Failure

/-- A failure as a table of its parts. -/
def ofValue (v : Value) : Checked Failure :=
  match Check.options v with
  | .ok entries =>
    Failure.mk <$> Check.required entries "code" Check.text
      <*> Check.required entries "message" Check.text
      <*> Check.option entries "detail" [] Check.table
  | .faulty faults => .faulty faults

def toValue (f : Failure) : Value :=
  .table [("code", .text f.code), ("message", .text f.message), ("detail", .table f.detail)]

end Failure

namespace Outcome

/-- An outcome as a table of its parts. -/
def ofValue (v : Value) : Except Rejection Outcome :=
  (match Check.options v with
    | .ok entries =>
      Outcome.mk <$> Check.required entries "ok" Check.bool
        <*> Check.required entries "op" Check.text
        <*> Check.option entries "data" [] Check.table
        <*> Check.option entries "warnings" [] (Check.list Check.text)
        <*> Check.option entries "error" none (Check.optional Failure.ofValue)
    | .faulty faults => .faulty faults).toExcept "ServiceResult"

def failed (op code message : String) (detail : List (String × Value)) : Outcome where
  ok := false
  op := op
  failure := some ⟨code, message, detail⟩

/-- The outcome as a value with all its parts. -/
def toValue (o : Outcome) : Value :=
  .table [("ok", .bool o.ok), ("op", .text o.op), ("data", .table o.data),
    ("warnings", .list (o.warnings.map .text)),
    ("error", match o.failure with
      | some f => f.toValue
      | none => .null)]

end Outcome

end NoteQuery
