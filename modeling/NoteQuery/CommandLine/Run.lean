import NoteQuery.CommandLine.Commands
import NoteQuery.Condition.Expression
import NoteQuery.Report.Render
import NoteQuery.Vault.Operations

/-!
# Runs of the program

A run reads its arguments, loads the settings, carries a command out, and ends with an exit code and
two texts. Results go to the first text; log lines, warnings and errors to the second.
-/

namespace NoteQuery.CommandLine

/-- What ends a run without a message of its own. -/
inductive Escape where
  | load (e : LoadError)
  | interruption (e : Interruption)
  | report (e : Report.Error)
  deriving DecidableEq, Repr

def Escape.message : Escape → String
  | load e => e.message
  | interruption e => e.message
  | report e => e.message

structure Run where
  exit : Nat := 0
  stdout : String := ""
  stderr : String := ""
  escape : Option Escape := none

namespace Run

def shown (text : String) : Run := { stdout := text }

def refused (c : Command) (e : UsageError) : Run := { exit := 2, stderr := c.errorText e }

def escaped (e : Escape) : Run := { exit := 1, escape := some e }

/-- Puts a text in front of the errors. -/
def withErrors (text : String) (r : Run) : Run := { r with stderr := text ++ r.stderr }

end Run

/-- Lines, each with a line break. -/
def unlines (lines : List String) : String := String.join (lines.map (· ++ "\n"))

/-! ## Reports -/

/-- The report of an outcome, as the settings ask for it. -/
def report (s : Settings) (o : Outcome) : Except Report.Error String :=
  if s.jsonOutput then .ok (Report.json o) else Report.plain o s.verbose

/-- Shows an outcome. Warnings are part of a report in JSON and stand apart from any other. -/
def emit (s : Settings) (o : Outcome) : Run :=
  match report s o with
  | .error e => Run.escaped (.report e)
  | .ok text =>
    if o.ok then
      let warnings := if s.jsonOutput then [] else o.warnings.map ("WARNING: " ++ ·)
      { stdout := text ++ "\n", stderr := unlines warnings }
    else { exit := 1, stderr := text ++ "\n" }

/-- Shows what an operation came to, after its log lines. -/
def conclude (s : Settings) (time : String)
    (result : Except Interruption (Logged Outcome)) : Run :=
  match result with
  | .error e => Run.escaped (.interruption e)
  | .ok logged =>
    (emit s logged.value).withErrors (unlines (Event.lines s.verbose s.logJson time logged.events))

/-! ## Values of options -/

def choiceMessage (value : String) (choices : List String) : String :=
  Text.quoted value ++ " is not one of " ++ ", ".intercalate (choices.map Text.quoted) ++ "."

def checkChoice (option : String) (choices : List String) (value : String) :
    Except UsageError Unit :=
  if choices.contains value then .ok ()
  else .error (.badValue (Text.quoted option) (choiceMessage value choices))

/-- An integer as it is typed: blanks around it, single underscores in it and digits of any script are
allowed. -/
def integer? (value : String) : Option Int :=
  let (negative, body) := Text.takeSign ((Text.trim value.toList).map Text.latinDigit)
  match Text.groupedDigits? body with
  | none => none
  | some ds =>
    if Text.digitLimit < ds.length then none
    else
      let n : Int := Text.natOfDigits ds
      some (if negative then -n else n)

/-- The conditions of expressions. Of two conditions on one field, the second counts. -/
def conditions : List String → OrderedMap Condition → Except UsageError (OrderedMap Condition)
  | [], m => .ok m
  | expression :: rest, m =>
    match Expression.parse expression with
    | .ok (field, c) => conditions rest (m.insert field c)
    | .error e => .error (.badValue "'-w' / '--where'" e.message)

/-- Checks the value of one option. -/
def checkOption (p : Parsed) (key : String) : Except UsageError Unit :=
  let value := (p.value? key).getD ""
  if key = "where" then (conditions (p.values key) .empty).map fun _ => ()
  else if key = "order" then checkChoice "--order" (SortOrder.choices.map Prod.fst) value
  else if key = "display" then checkChoice "--display" (DisplayMode.choices.map Prod.fst) value
  else if key = "limit" then
    if (integer? value).isSome then .ok ()
    else .error (.badValue (Text.quoted "--limit") (Text.quoted value ++ " is not a valid integer."))
  else .ok ()

def checkOptions (p : Parsed) : List String → Except UsageError Unit
  | [] => .ok ()
  | key :: keys =>
    match checkOption p key with
    | .ok _ => checkOptions p keys
    | .error e => .error e

/-- The names between commas, without blanks around them. -/
def splitFields (value : String) : List String :=
  (Text.commaItems value.toList).map String.ofList

def displayMode? (p : Parsed) : Option DisplayMode :=
  (p.value? "display").bind fun v => DisplayMode.choices.lookup v

/-! ## Commands -/

/-- Reads the arguments of a command. It goes on with what was typed unless that asks for help or
examples or is faulty; `examples` are those of the command. -/
def withParsed (c : Command) (examples : String) (args : List String) (go : Parsed → Run) : Run :=
  match c.parse args with
  | .error e => Run.refused c e
  | .ok p =>
    match p.eager? with
    | some key =>
      if key = "version" then Run.shown (programName ++ ", version " ++ version ++ "\n")
      else if key = "examples" then Run.shown (examplesText c examples)
      else Run.shown c.help
    | none =>
      match checkOptions p p.keys with
      | .error e => Run.refused c e
      | .ok _ =>
        if c.isGroup then go p
        else match p.arguments.drop c.arguments.length with
          | [] => go p
          | extra => Run.refused c (.extraArguments extra)

/-- The query that the options ask for. What they leave open is taken from the settings. -/
def queryOf (s : Settings) (p : Parsed) : Query where
  conditions := (conditions (p.values "where") .empty).toOption.getD .empty
  sort :=
    let order := (p.value? "order").bind fun v => SortOrder.choices.lookup v
    match (p.value? "sort").filter (· != "") with
    | some field => some ⟨some field, order.getD .ascending⟩
    | none => some ⟨s.query.sort.field, order.getD s.query.sort.order⟩
  limit := (p.value? "limit").bind integer?
  fields := some (((View.someFields ((p.value? "fields").map splitFields))).getD s.query.fields)

def runQuery (h : Host) (time : String) (s : Settings) (args : List String) : Run :=
  withParsed queryCommand queryExamples args fun p =>
    conclude s time (Vault.ask h s
      { source := p.arguments.head?, query := queryOf s p, display := displayMode? p,
        numbered := p.has "numbered" })

def runViewsList (s : Settings) (args : List String) : Run :=
  withParsed listCommand "" args fun _ => emit s (Vault.listViews s)

def runViewsRun (h : Host) (time : String) (s : Settings) (args : List String) : Run :=
  withParsed runCommand runExamples args fun p =>
    match p.arguments with
    | [] => Run.refused runCommand (.missingArgument "NAME")
    | name :: _ => conclude s time (Vault.runView h s name (displayMode? p))

/-- Goes on with the command that is named among the members of a group. -/
def withMember (c : Command) (examples : String) (args : List String)
    (go : String → List String → Run) : Run :=
  match args with
  | [] => Run.refused c .missingCommand
  | name :: rest =>
    if (c.members.lookup name).isSome then go name rest
    else
      let unknown : Run :=
        Run.refused c (.noSuchCommand name (Text.similarWords name (c.members.map Prod.fst)))
      match name.toList with
      | '-' :: _ => withParsed c examples args fun _ => unknown
      | _ => unknown

def runViews (h : Host) (time : String) (s : Settings) (args : List String) : Run :=
  if args.isEmpty then { exit := 2, stderr := viewsCommand.help }
  else withParsed viewsCommand viewsExamples args fun p =>
    withMember viewsCommand viewsExamples p.arguments fun name rest =>
      if name = "list" then runViewsList s rest else runViewsRun h time s rest

/-- The flags that were typed. -/
def flagsOf (p : Parsed) : List (String × Value) :=
  (["json_output", "verbose", "log_json"].filter p.has).map fun name => (name, .bool true)

/-- Goes on with the settings that the options of the program ask for. -/
def withSettings (h : Host) (p : Parsed) (go : Settings → Run) : Run :=
  match Settings.load h (p.value? "config") none (flagsOf p) with
  | .ok s => go s
  | .error e =>
    if e.isConfiguration then { exit := 1, stderr := "Error: " ++ e.message ++ "\n" }
    else Run.escaped (.load e)

/-- Runs the program. Log lines carry the time that is given. -/
def run (h : Host) (time : String) (args : List String) : Run :=
  withParsed rootCommand "" args fun p =>
    if p.arguments.isEmpty then withSettings h p fun _ => Run.shown rootCommand.help
    else withMember rootCommand "" p.arguments fun name rest =>
      withSettings h p fun s =>
        if name = "query" then runQuery h time s rest else runViews h time s rest

end NoteQuery.CommandLine
