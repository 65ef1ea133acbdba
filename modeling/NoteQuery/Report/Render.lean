import NoteQuery.Report.BoxTable
import NoteQuery.Json.Writer
import NoteQuery.Report.Markup
import NoteQuery.Note.Row
import NoteQuery.Report.Outcome
import NoteQuery.Report.PipeTable

/-!
# Reports

The text that an outcome is shown as: indented JSON, or a plain report on a page of 120 cells. Found
records are a box table or a pipe table, views are a list, and a failure is a line with its message.
The lines of a pipe table are as long as they need to be; all other lines are wrapped.
-/

namespace NoteQuery.Report

def pageWidth : Nat := 120

/-- Why there is no report: a heading with unbalanced tags, or a view without a name. -/
inductive Error where
  | markup (e : Markup.Error)
  | missingKey (name : String)
  deriving DecidableEq, Repr

def Error.message : Error → String
  | markup e => e.message
  | missingKey name => Text.quoted name

/-- Texts after one another, wrapped. -/
def paragraph (texts : List (List Char)) : List (List Char) :=
  Text.wrap pageWidth .fold .natural (Text.printed texts.flatten)

/-- A line that is not wrapped. Emoji codes are replaced in it. -/
def longLine (cs : List Char) : List (List Char) :=
  ((Text.printed (Emoji.replace cs)).splitOn '\n').map Text.expandTabs

def lookupText (name : String) (data : List (String × Value)) (default : String) : List Char :=
  match Value.lookup? name data with
  | some v => v.bareChars
  | none => default.toList

/-! ## Records -/

/-- The items of a list; nothing else has items. -/
def itemsOf : Option Value → List Value
  | some (.list items) => items
  | _ => []

def tablesOf (vs : List Value) : List (OrderedMap Value) :=
  vs.filterMap fun
    | .table entries => some (OrderedMap.ofList entries)
    | _ => none

/-- The texts of headings. -/
def headings : List String → Except Markup.Error (List (List Char))
  | [] => .ok []
  | s :: ss =>
    match Markup.plain s.toList with
    | .error e => .error e
    | .ok cs =>
      match headings ss with
      | .error e => .error e
      | .ok rest => .ok (Text.printed cs :: rest)

/-- The title, unless it is empty. -/
def titleText (data : List (String × Value)) : Except Markup.Error (Option (List Char)) :=
  match Value.lookup? "title" data with
  | some (.text s) =>
    if s = "" then .ok none
    else match Markup.plain s.toList with
      | .ok cs => .ok (some (Text.printed cs))
      | .error e => .error e
  | _ => .ok none

/-- The columns of the table of some rows. -/
def tableColumns (rows : List (OrderedMap Value)) (fields : List String)
    (shown : List (List Char)) (numbered : Bool) : List BoxTable.Column :=
  let numbers : List BoxTable.Column :=
    if numbered then
      [⟨['#'], (List.range rows.length).map fun n => Nat.toDigits 10 (n + 1), .right⟩]
    else []
  numbers ++ (List.zip fields shown).map fun (field, heading) =>
    ⟨heading, rows.map fun row => Text.printed (PipeTable.cell row field), .left⟩

def boxLines (data : List (String × Value)) (rows : List (OrderedMap Value))
    (fields : List String) (numbered : Bool) : Except Markup.Error (List (List Char)) :=
  match titleText data, headings fields with
  | .error e, _ => .error e
  | _, .error e => .error e
  | .ok title, .ok shown =>
    .ok (BoxTable.lines pageWidth title (tableColumns rows fields shown numbered) rows.length)

def textsOf (vs : List Value) : List String :=
  vs.filterMap fun
    | .text s => some s
    | _ => none

/-- The records that were found, and in verbose reports where they were found. -/
def recordLines (data : List (String × Value)) (verbose : Bool) :
    Except Error (List (List Char)) :=
  let items := itemsOf (Value.lookup? "items" data)
  let rows := tablesOf items
  let fields := textsOf (itemsOf (Value.lookup? "columns" data))
  let numbered := (Value.orNull (Value.lookup? "numbered" data)).isTruthy
  let summary :=
    if verbose then
      paragraph ["  ".toList, lookupText "count" data (toString items.length),
        " result(s) from ".toList, lookupText "source" data ""]
    else []
  let isMarkdown := match Value.lookup? "display" data with
    | some (.text s) => s == "markdown"
    | _ => false
  if isMarkdown then
    .ok ((PipeTable.charLines rows fields numbered).flatMap longLine ++ summary)
  else if rows.isEmpty then .ok (PipeTable.noResults.toList :: summary)
  else match boxLines data rows fields numbered with
    | .ok table => .ok (table ++ summary)
    | .error e => .error (.markup e)

/-! ## Views and failures -/

def viewLines : List (OrderedMap Value) → Except Error (List (List Char))
  | [] => .ok []
  | item :: rest =>
    match item.get? "name" with
    | none => .error (.missingKey "name")
    | some name =>
      let description := Value.orNull (item.get? "description")
      let about := if description.isTruthy then " - ".toList ++ description.bareChars else []
      match viewLines rest with
      | .ok lines => .ok (paragraph ["  ".toList, name.bareChars, about] ++ lines)
      | .error e => .error e

def viewListLines (data : List (String × Value)) : Except Error (List (List Char)) :=
  match tablesOf (itemsOf (Value.lookup? "items" data)) with
  | [] => .ok ["No views configured.".toList]
  | items =>
    match viewLines items with
    | .ok lines => .ok ("Available views:".toList :: lines)
    | .error e => .error e

def failureLines (o : Outcome) (verbose : Bool) : List (List Char) :=
  let message := match o.failure with
    | some f => f.message
    | none => "Unknown error"
  let detail := match o.failure with
    | some f => f.detail
    | none => []
  paragraph ["ERROR   ".toList, o.op.toList, "  —  ".toList, message.toList] ++
    if verbose && !detail.isEmpty then
      "  detail:".toList :: detail.flatMap fun (name, v) =>
        paragraph ["    ".toList, name.toList, [':', ' '], v.bareChars]
    else []

/-- A line for the operation and one for each of its data. -/
def plainLines (o : Outcome) : List (List Char) :=
  paragraph ["OK   ".toList, o.op.toList] ++ o.data.flatMap fun (name, v) =>
    let text := match v with
      | .list items => Json.line Json.narrow (.list items)
      | .table entries => Json.line Json.narrow (.table entries)
      | v => v.bareChars
    paragraph ["  ".toList, name.toList, ":  ".toList, text]

/-! ## Reports -/

def lines (o : Outcome) (verbose : Bool) : Except Error (List (List Char)) :=
  if !o.ok then .ok (failureLines o verbose)
  else if o.op = "query" || o.op = "run_view" then recordLines o.data verbose
  else if o.op = "list_views" then viewListLines o.data
  else .ok (plainLines o)

/-- The lines without those at the end that are empty. -/
def dropEmptyEnd (lines : List (List Char)) : List (List Char) :=
  (lines.reverse.dropWhile (· == [])).reverse

/-- The plain report of an outcome. -/
def plain (o : Outcome) (verbose : Bool) : Except Error String :=
  match lines o verbose with
  | .ok ls => .ok (String.ofList (['\n'].intercalate (dropEmptyEnd ls)))
  | .error e => .error e

/-- The machine-readable report of an outcome. -/
def json (o : Outcome) : String := String.ofList (Json.indented 0 o.toValue)

end NoteQuery.Report
