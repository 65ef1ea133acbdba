import NoteQuery.Query.Spec
import NoteQuery.Vault.Path

/-!
# Settings

What can be configured: where notes are looked for, how results are shown, the defaults of queries,
and named views. Every setting has a default, so that a configuration only names what differs. The
check of a table of settings reports all its faults.
-/

namespace NoteQuery

inductive DisplayMode where
  | table
  | markdown
  deriving DecidableEq, Repr, Inhabited

def DisplayMode.name : DisplayMode → String
  | table => "table"
  | markdown => "markdown"

def DisplayMode.choices : List (String × DisplayMode) :=
  [("table", .table), ("markdown", .markdown)]

/-- How a directory is scanned. The number of workers changes nothing but the time it takes. -/
structure ScanOptions where
  recursive : Bool := true
  workers : Int := 1
  deriving DecidableEq, Repr, Inhabited

def defaultFields : List String := ["title", "type", "rating", "start", "end"]

/-- The parts of a query that is asked for without them. -/
structure QueryDefaults where
  fields : List String := defaultFields
  sort : Sorting := ⟨some "start", .descending⟩
  deriving DecidableEq, Repr, Inhabited

/-- A query with a name. Its conditions are kept as they are written and checked when it is run. -/
structure View where
  source : Option String := none
  description : String := ""
  title : Option String := none
  fields : Option (List String) := none
  displayFields : Option (List String) := none
  conditions : List (String × Value) := []
  sort : Option Sorting := none
  limit : Option Int := none
  display : Option DisplayMode := none
  numbered : Bool := false
  deriving Inhabited

structure Settings where
  home : Option Path := none
  configPath : Option Path := none
  jsonOutput : Bool := false
  verbose : Bool := false
  logJson : Bool := false
  display : DisplayMode := .table
  scan : ScanOptions := {}
  query : QueryDefaults := {}
  views : OrderedMap View := .empty
  deriving Inhabited

namespace View

/-- The fields if there are any. -/
def someFields (fields : Option (List String)) : Option (List String) :=
  fields.filter fun names => !names.isEmpty

/-- The columns that the view shows. -/
def columns (v : View) : List String :=
  ((someFields v.displayFields).or (someFields v.fields)).getD defaultFields

/-- The query of the view, unless one of its conditions cannot be used. -/
def toQuery (v : View) : Except Rejection Query :=
  match Query.checkConditions (.value (.table v.conditions)) with
  | .ok conditions => .ok ⟨conditions, v.sort, v.limit, v.fields⟩
  | .faulty faults => ((Checked.faulty faults).within (.name "where")).toExcept "QuerySpec"

/-- What is shown about the view in a list. -/
def about (v : View) : String :=
  if v.description != "" then v.description else v.source.getD ""

/-- The view that a table of options describes. Its directory is called `from`. -/
def ofValue (value : Value) : Checked View :=
  match Check.options value with
  | .faulty faults => .faulty faults
  | .ok entries =>
    let sourceName := if (Value.lookup? "from" entries).isSome then "from" else "source"
    View.mk <$> Check.option entries sourceName none (Check.optional Check.text)
      <*> Check.option entries "description" "" Check.text
      <*> Check.option entries "title" none (Check.optional Check.text)
      <*> Check.option entries "fields" none (Check.optional (Check.list Check.text))
      <*> Check.option entries "display_fields" none (Check.optional (Check.list Check.text))
      <*> Check.option entries "where" [] Check.table
      <*> Check.option entries "sort" none (Check.optional Sorting.ofValue)
      <*> Check.option entries "limit" none (Check.optional Check.integer)
      <*> Check.option entries "display" none (Check.optional (Check.choice DisplayMode.choices))
      <*> Check.option entries "numbered" false Check.bool

end View

def ScanOptions.ofValue (value : Value) : Checked ScanOptions :=
  match Check.options value with
  | .faulty faults => .faulty faults
  | .ok entries =>
    ScanOptions.mk <$> Check.option entries "recursive" true Check.bool
      <*> Check.option entries "workers" 1 (Check.integerFrom 1)

def QueryDefaults.ofValue (value : Value) : Checked QueryDefaults :=
  match Check.options value with
  | .faulty faults => .faulty faults
  | .ok entries =>
    QueryDefaults.mk <$> Check.option entries "fields" defaultFields (Check.list Check.text)
      <*> Check.option entries "sort" ⟨some "start", .descending⟩ Sorting.ofValue

namespace Settings

/-- The names of all settings. -/
def names : List String :=
  ["home", "config_path", "json_output", "verbose", "log_json", "display", "scan", "query", "views"]

def checkPath : Value → Checked Path
  | .text s => .ok (Path.ofString s)
  | _ => Checked.fail .notPath

def checkViews (value : Value) : Checked (OrderedMap View) :=
  match Check.table value with
  | .ok entries => (Checked.eachEntry View.ofValue entries).map OrderedMap.ofList
  | .faulty faults => .faulty faults

/-- Names that are no settings are faults. -/
def checkNames (entries : List (String × Value)) : Checked Unit :=
  match entries.filter fun e => !names.contains e.1 with
  | [] => .ok ()
  | unknown => .faulty (unknown.map fun e => ⟨[.name e.1], .unknownName⟩)

/-- The settings of a table, whose home is still to be expanded. -/
def ofEntries (entries : List (String × Value)) : Except Rejection Settings :=
  let settings : Checked Settings :=
    Settings.mk <$> Check.option entries "home" none (Check.optional checkPath)
      <*> Check.option entries "config_path" none (Check.optional checkPath)
      <*> Check.option entries "json_output" false Check.bool
      <*> Check.option entries "verbose" false Check.bool
      <*> Check.option entries "log_json" false Check.bool
      <*> Check.option entries "display" .table (Check.choice DisplayMode.choices)
      <*> Check.option entries "scan" {} ScanOptions.ofValue
      <*> Check.option entries "query" {} QueryDefaults.ofValue
      <*> Check.option entries "views" .empty checkViews
  (Checked.seq (settings.map fun s _ => s) (checkNames entries)).toExcept "MdvSettings"

end Settings

end NoteQuery
