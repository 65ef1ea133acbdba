import NoteQuery.Json.Reader
import NoteQuery.OrderedMap
import NoteQuery.Text.LowerCase

/-!
# Sources of settings

Settings come from several sources, each a table, of which a later one is put over an earlier one leaf
by leaf. One source is the environment: a variable names a setting, or with double underscores a
setting inside a section; sections and lists are written in JSON there.
-/

namespace NoteQuery

/-! ## Putting tables over each other -/

mutual

/-- The value `upper` in place of `base`; two tables are put over each other. -/
def overlayValue (base : Option Value) (upper : Value) : Value :=
  match upper with
  | .table entries =>
    match base with
    | some (.table below) => .table (overlay below entries)
    | _ => .table entries
  | v => v

/-- The entries of two tables. Where both have a value that is no table, the second counts. -/
def overlay (base upper : List (String × Value)) : List (String × Value) :=
  match upper with
  | [] => base
  | (name, v) :: rest => overlay (insertEntry name (overlayValue (base.lookup name) v) base) rest

end

namespace Environment

/-! ## What the settings look like -/

/-- How the text of a variable is read: as it is, as JSON, or as JSON if it is any; and the settings
inside the one it names. -/
inductive Shape where
  | plain
  | json (lenient : Bool) (inner : List (String × Shape))

def Shape.inner : Shape → List (String × Shape)
  | plain => []
  | json _ inner => inner

def sorting (lenient : Bool) : Shape := .json lenient [("field", .plain), ("order", .plain)]

def scan : Shape := .json false [("recursive", .plain), ("workers", .plain)]

def query : Shape := .json false [("fields", .json false []), ("sort", sorting false)]

/-- The settings of a view. The shape of a text is looked up under the name of the view, so that only
a view that is called like one of these settings has a shape; all other texts may be JSON. -/
def views : Shape :=
  .json false [("source", .plain), ("from", .plain), ("description", .plain), ("title", .plain),
    ("fields", .json true []), ("display_fields", .json true []), ("where", .json false []),
    ("sort", sorting true), ("limit", .plain), ("display", .plain), ("numbered", .plain)]

def marker : String := "mdviews_"

/-- The shape of a setting inside another one. -/
def next (shape : Option Shape) (name : String) : Option Shape :=
  match shape with
  | none => none
  | some s => (s.inner.find? fun e => e.1 == name || marker ++ e.1 == name).map Prod.snd

/-! ## Nested names -/

/-- The parts of a name between double underscores. -/
def nameParts : List Char → List (List Char)
  | [] => [[]]
  | '_' :: '_' :: cs => [] :: nameParts cs
  | c :: cs =>
    match nameParts cs with
    | [] => [[c]]
    | part :: parts => (c :: part) :: parts

/-- The value of a text of some shape. In a table of views any text may be JSON. Nothing comes of a
text that has to be JSON and is none. -/
def read? (isViews : Bool) (shape : Option Shape) (text : String) : Option Value :=
  if text = "" then some (.text text)
  else match shape with
    | some .plain => some (.text text)
    | some (.json lenient _) =>
      match Json.parse? text.toList with
      | some v => some v
      | none => if lenient then some (.text text) else none
    | none =>
      if isViews then some ((Json.parse? text.toList).getD (.text text)) else some (.text text)

/-- Sets the value at the end of a path of names. Where something else than a table stands in the way
nothing is set. -/
def setAt (v : Value) : List String → List (String × Value) → List (String × Value)
  | [], es => es
  | [name], es => insertEntry name v es
  | name :: names, es =>
    match (es.lookup name).getD (.table []) with
    | .table inner => insertEntry name (.table (setAt v names inner)) es
    | _ => es

/-- What the variables whose names begin with the name of a section add to it. -/
def nested? (isViews : Bool) (group : String) (shape : Shape) :
    List (String × String) → Option (List (String × Value)) :=
  let start := (marker ++ group ++ "__").toList
  go start []
where
  go (start : List Char) (es : List (String × Value)) :
      List (String × String) → Option (List (String × Value))
    | [] => some es
    | (name, text) :: rest =>
      if start.isPrefixOf name.toList then
        let parts := (nameParts (name.toList.drop start.length)).map String.ofList
        match read? isViews (parts.foldl next (some shape)) text with
        | some v => go start (setAt v parts es) rest
        | none => none
      else go start es rest

/-! ## Sections -/

/-- The entries with the names of a section as it spells them, whatever their case. -/
def respell (names : List String) (entries : List (String × Value)) : List (String × Value) :=
  (OrderedMap.ofList (entries.map fun (name, v) =>
    ((names.find? fun n => Text.lower n.toList == Text.lower name.toList).getD name, v))).entries

/-- The names in the section of query defaults, which holds a table itself. -/
def respellQuery (entries : List (String × Value)) : List (String × Value) :=
  (respell ["fields", "sort"] entries).map fun (name, v) =>
    match v with
    | .table inner => (name, if name = "sort" then .table (respell ["field", "order"] inner) else v)
    | _ => (name, v)

def respellSection (group : String) (v : Value) : Value :=
  match v with
  | .table entries =>
    if group = "scan" then .table (respell ["recursive", "workers"] entries)
    else if group = "query" then .table (respellQuery entries)
    else v
  | v => v

/-- The value of a section: its own variable, in JSON, and over it the variables of its settings.
There is nothing to return if no variable is set, and a failure if one is not what it has to be. -/
def section? (bindings : List (String × String)) (group : String) (shape : Shape) :
    Option (Option Value) :=
  let isViews := group == "views"
  match bindings.lookup (marker ++ group) with
  | none =>
    match nested? isViews group shape bindings with
    | none => none
    | some [] => some none
    | some entries => some (some (respellSection group (.table entries)))
  | some text =>
    match Json.parse? text.toList with
    | none => none
    | some (.table entries) =>
      match nested? isViews group shape bindings with
      | none => none
      | some more => some (some (respellSection group (.table (overlay entries more))))
    | some .null => some none
    | some v => some (some v)

/-- The settings that are no sections. -/
def leaves : List String := ["home", "config_path", "json_output", "verbose", "log_json", "display"]

def sections : List (String × Shape) := [("scan", scan), ("query", query), ("views", views)]

/-- The variables under their names in lower case, a later one in place of an earlier one. -/
def lowered (bindings : List (String × String)) : List (String × String) :=
  (OrderedMap.ofList (bindings.map fun (name, text) =>
    (String.ofList (Text.lower name.toList), text))).entries

/-- The entries of the sections, or the name of the first section that cannot be read. -/
def sectionEntries (bindings : List (String × String)) :
    List (String × Shape) → Except String (List (String × Value))
  | [] => .ok []
  | (name, shape) :: rest =>
    match section? bindings name shape, sectionEntries bindings rest with
    | none, _ => .error name
    | some _, .error e => .error e
    | some none, .ok es => .ok es
    | some (some v), .ok es => .ok ((name, v) :: es)

/-- The settings that the environment makes, or the name of a section that cannot be read. -/
def entries (bindings : List (String × String)) : Except String (List (String × Value)) :=
  let bindings := lowered bindings
  let plain := leaves.filterMap fun name =>
    (bindings.lookup (marker ++ name)).map fun text => (name, .text text)
  (sectionEntries bindings sections).map fun es => plain ++ es

end Environment

end NoteQuery
