import NoteQuery.Note.Row
import NoteQuery.Query.Stages
import NoteQuery.Report.Outcome
import NoteQuery.Settings.Load
import NoteQuery.Vault.Scan

/-!
# Operations on a vault

The three things that can be asked: a query over a directory, a view by its name, and the list of the
views. Faults of the question are failed outcomes. Only a home directory that cannot be found and a
query that fails on the records, by a predicate or an integer with too many digits, leave no outcome at
all.
-/

namespace NoteQuery

/-- Why an operation has no outcome. -/
inductive Interruption where
  | noHome
  | condition (e : ConditionError)
  deriving DecidableEq, Repr

def Interruption.message : Interruption → String
  | noHome => LoadError.noHome.message
  | condition e => e.message

/-- A query over a directory and how its result is to be shown. -/
structure Request where
  source : Option String := none
  query : Query
  columns : Option (List String) := none
  title : String := "mdviews"
  display : Option DisplayMode := none
  numbered : Bool := false
  op : String := "query"

namespace Vault

/-- The directory that a source names: a tilde is expanded, and a relative path is seen from home. -/
def resolveSource (h : Host) (home : Option Path) (source : String) : Option Path :=
  match (Path.ofString source).expandHome h.home with
  | none => none
  | some path =>
    match home with
    | none => some path
    | some home =>
      if path.isAbsolute then some path
      else (home.expandHome h.home).map fun home => home.join path

/-- The directory of a request: its source, else home, else the working directory. -/
def directory (h : Host) (s : Settings) (source : Option String) : Option Path :=
  match source.filter (· != "") with
  | some source => resolveSource h s.home source
  | none => some (s.home.getD h.currentDirectory)

/-- The query that is run if none is given. -/
def defaultQuery (s : Settings) : Query where
  fields := some s.query.fields
  sort := some s.query.sort

/-- The columns that are shown: those asked for, else the fields of the query, else the default. -/
def columns (s : Settings) (r : Request) : List String :=
  ((View.someFields r.columns).or (View.someFields r.query.fields)).getD s.query.fields

/-- The data of the records that a request has found. -/
def answerData (s : Settings) (r : Request) (directory : Path) (found : List Record) :
    List (String × Value) :=
  [("title", .text r.title), ("source", .text directory.toString),
    ("columns", .list ((columns s r).map .text)),
    ("display", .text (r.display.getD s.display).name), ("numbered", .bool r.numbered),
    ("count", .int found.length), ("items", .list (found.map fun f => .table f.row.entries))]

/-- The warnings of a scan, and one more if it met no notes at all. -/
def scanWarnings (scan : Scan) (directory : Path) : List String :=
  if scan.records.isEmpty && scan.warnings.isEmpty then
    ["No markdown files found in " ++ directory.toString]
  else scan.warnings

/-- Runs a query over the notes of a directory. -/
def ask (h : Host) (s : Settings) (r : Request) : Except Interruption (Logged Outcome) :=
  match directory h s r.source with
  | none => .error .noHome
  | some dir =>
    if !h.isDirectory dir then
      .ok ⟨Outcome.failed r.op "SOURCE_NOT_FOUND" ("Not a directory: " ++ dir.toString)
        [("source", .text dir.toString)], []⟩
    else
      let scan := Scan.run h dir s.scan.recursive
      match r.query.run scan.value.records with
      | .error e => .error (.condition e)
      | .ok found =>
        .ok ⟨{ ok := true, op := r.op, data := answerData s r dir found,
               warnings := scanWarnings scan.value dir },
          scan.events ++ [.matched dir.toString found.length scan.value.records.length]⟩

/-- Runs a query that a caller supplies, or the default one. -/
def askInput (h : Host) (s : Settings) (input : Option Input) (request : Query → Request) :
    Except Interruption (Logged Outcome) :=
  match input with
  | none => ask h s (request (defaultQuery s))
  | some i =>
    match Query.ofInput i with
    | .ok q => ask h s (request q)
    | .error r => .ok ⟨Outcome.failed (request {}).op "INVALID_QUERY" r.message [], []⟩

def sortedNames (names : List String) : List String := names.mergeSort fun a b => (compare a b).isLE

/-- Runs the view of a name. -/
def runView (h : Host) (s : Settings) (name : String) (display : Option DisplayMode) :
    Except Interruption (Logged Outcome) :=
  match s.views.get? name with
  | none =>
    .ok ⟨Outcome.failed "run_view" "UNKNOWN_VIEW" ("Unknown view '" ++ name ++ "'")
      [("available", .list ((sortedNames s.views.keys).map .text))], []⟩
  | some view =>
    match view.source.filter (· != "") with
    | none =>
      .ok ⟨Outcome.failed "run_view" "INVALID_QUERY"
        ("View '" ++ name ++ "' has no 'from' directory") [], []⟩
    | some source =>
      match view.toQuery with
      | .error r =>
        .ok ⟨Outcome.failed "run_view" "INVALID_QUERY"
          ("View '" ++ name ++ "' is invalid: " ++ r.message) [("view", .text name)], []⟩
      | .ok q =>
        ask h s { source := some source, query := q, columns := some view.columns,
                  title := (view.title.filter (· != "")).getD name,
                  display := display.or view.display, numbered := view.numbered,
                  op := "run_view" }

/-- The names of the views and what there is to say about them. -/
def listViews (s : Settings) : Outcome :=
  let items := (sortedNames s.views.keys).map fun name =>
    Value.table [("name", .text name),
      ("description", .text ((s.views.get? name).elim "" View.about))]
  { ok := true, op := "list_views", data := [("count", .int items.length), ("items", .list items)] }

end Vault

end NoteQuery
