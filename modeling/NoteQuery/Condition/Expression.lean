import NoteQuery.Condition.Basic
import NoteQuery.Note.Scalar

/-!
# Condition expressions

A condition on one line: `FIELD=VALUE` is a literal, `FIELD>=VALUE` and the other signs are operators,
`FIELD:OP:VALUE` names an operator and `FIELD:OP` one that needs no value. An expression is first cut
into its parts; the parts then mean a condition, or a reason why there is none.
-/

namespace NoteQuery

/-- Why an expression is no condition. -/
inductive ExpressionError where
  | unknownOperator (name : String)
  | missingValue (op expression : String)
  | unreadable (expression : String)
  deriving DecidableEq, Repr

def ExpressionError.message : ExpressionError → String
  | unknownOperator name => (ConditionError.unknownOperator name).message
  | missingValue op expression =>
    "Operator " ++ String.singleton Text.singleQuote ++ op ++ String.singleton Text.singleQuote ++
      " needs a value: " ++ Text.quoted expression
  | unreadable expression =>
    "Cannot parse condition " ++ Text.quoted expression ++
      "; expected FIELD=VALUE or FIELD:OP[:VALUE]"

namespace Expression

/-- The parts of an expression. -/
inductive Parts where
  | named (field op : List Char) (raw : Option (List Char))
  | signed (field : List Char) (sign : String) (raw : List Char)
  deriving DecidableEq, Repr

/-- The signs, each before the signs that begin it. -/
def signs : List String := ["!=", "<>", ">=", "<=", "==", "=", ">", "<"]

def isOperatorChar (c : Char) : Bool := ('a' ≤ c && c ≤ 'z') || c == '_'

/-- One line: a line break may only stand at its very end, where it is dropped. -/
def oneLine? (cs : List Char) : Option (List Char) :=
  let line := Text.withoutEnd ['\n'] cs
  if line.contains '\n' then none else some line

/-- The parts after the field and a colon. -/
def named? (field rest : List Char) : Option Parts :=
  let op := rest.takeWhile isOperatorChar
  if op.isEmpty then none
  else match rest.dropWhile isOperatorChar with
    | [] => some (.named field op none)
    | ':' :: raw => (oneLine? raw).map fun raw => .named field op (some raw)
    | ['\n'] => some (.named field op none)
    | _ => none

/-- The parts after the field: a sign, with blanks around it or not, and a value. -/
def signed? (field rest : List Char) : Option Parts :=
  let rest := Text.trimStart rest
  match signs.find? fun sign => sign.toList.isPrefixOf rest with
  | some sign =>
    (oneLine? (Text.trimStart (rest.drop sign.length))).map fun raw => .signed field sign raw
  | none => none

/-- The parts of an expression, if it has the form of one. -/
def parts? (cs : List Char) : Option Parts :=
  let field := cs.takeWhile Text.isWord
  if field.isEmpty then none
  else match cs.dropWhile Text.isWord with
    | ':' :: rest => named? field rest
    | rest => signed? field rest

/-- What the parts mean. -/
def Parts.read (expression : String) : Parts → Except ExpressionError (String × Condition)
  | named field op raw =>
    let field := String.ofList field
    let op := String.ofList op
    match Operator.ofName op with
    | .error _ => .error (.unknownOperator op)
    | .ok kind =>
      if kind.isUnary then .ok (field, .operator kind .null)
      else match raw with
        | none => .error (.missingValue op expression)
        | some raw =>
          if kind = .within then
            .ok (field, .operator kind (.list ((Text.commaItems raw).map Scalar.read)))
          else .ok (field, .operator kind (Scalar.read raw))
  | signed field sign raw =>
    let field := String.ofList field
    if sign = "=" then .ok (field, .literal (Scalar.read raw))
    else match Operator.ofName sign with
      | .error _ => .error (.unknownOperator sign)
      | .ok kind => .ok (field, .operator kind (Scalar.read raw))

/-- The field and the condition that an expression writes. -/
def parse (expression : String) : Except ExpressionError (String × Condition) :=
  match parts? expression.toList with
  | some parts => parts.read expression
  | none => .error (.unreadable expression)

end Expression

end NoteQuery
