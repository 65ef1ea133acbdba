import NoteQuery.OrderedMap
import NoteQuery.Toml.Scalar

/-!
# TOML documents

A document is a list of statements: a key with its value, a table header, or a header that adds a
table to a list. What may be said twice is the delicate part. A table may be declared once; a table
that dotted keys have made cannot be declared in a later section; what an inline table or a list holds
cannot be added to. The document remembers declared and closed names for that.
-/

namespace NoteQuery.Toml

abbrev Entries := List (String × Value)

/-! ## Nested entries -/

/-- Changes the last item of a list, if that is a table. -/
def changeLast (change : Entries → Except Error Entries) : List Value → Except Error (List Value)
  | [] => malformed
  | [.table es] =>
    match change es with
    | .ok es => .ok [.table es]
    | .error e => .error e
  | [_] => malformed
  | v :: w :: vs =>
    match changeLast change (w :: vs) with
    | .ok vs => .ok (v :: vs)
    | .error e => .error e

/-- Changes the entries at the end of a key. Missing tables are made on the way; of a list of tables,
the last one is entered if `intoLists`. -/
def changeAt (intoLists : Bool) (change : Entries → Except Error Entries) :
    Key → Entries → Except Error Entries
  | [], es => change es
  | name :: names, es =>
    let result : Except Error Value := match (es.lookup name).getD (.table []) with
      | .table inner => (changeAt intoLists change names inner).map .table
      | .list items =>
        if intoLists then (changeLast (changeAt intoLists change names) items).map .list
        else malformed
      | _ => malformed
    match result with
    | .ok v => .ok (insertEntry name v es)
    | .error e => .error e

/-- Adds an entry that must not be there yet. -/
def addNew (name : String) (v : Value) (es : Entries) : Except Error Entries :=
  if (es.lookup name).isSome then malformed else .ok (es ++ [(name, v)])

/-- Adds an empty table to the list under a name. -/
def addItem (name : String) (es : Entries) : Except Error Entries :=
  match es.lookup name with
  | none => .ok (es ++ [(name, .list [.table []])])
  | some (.list items) => .ok (insertEntry name (.list (items ++ [.table []])) es)
  | some _ => malformed

/-- Whether the key is one of `closed` or leads through one. -/
def isClosed (closed : List Key) (key : Key) : Bool := closed.any fun k => k.isPrefixOf key

def isContainer : Value → Bool
  | .table _ => true
  | .list _ => true
  | _ => false

/-! ## Values -/

mutual

/-- A value of any kind; brackets are nested at most `fuel` deep. -/
def value : Nat → List Char → Result Value
  | 0, _ => malformed
  | fuel + 1, cs =>
    match cs with
    | [] => malformed
    | c :: rest =>
      if c = '"' || c = apostrophe then
        match string c rest with
        | .ok (text, rest) => .ok (.text (String.ofList text), rest)
        | .error e => .error e
      else if c = '[' then
        match skipFiller false rest with
        | .ok (']' :: rest) => .ok (.list [], rest)
        | .ok rest =>
          match items fuel rest with
          | .ok (vs, rest) => .ok (.list vs, rest)
          | .error e => .error e
        | .error e => .error e
      else if c = '\x7b' then
        match skipSpace rest with
        | '\x7d' :: rest => .ok (.table [], rest)
        | rest =>
          match inlineEntries fuel [] [] rest with
          | .ok (es, rest) => .ok (.table es, rest)
          | .error e => .error e
      else bareValue cs

/-- The items of a list up to its closing bracket; a comma may stand after the last. -/
def items : Nat → List Char → Result (List Value)
  | 0, _ => malformed
  | fuel + 1, cs =>
    match value fuel cs with
    | .error e => .error e
    | .ok (v, rest) =>
      match skipFiller false rest with
      | .error e => .error e
      | .ok (']' :: rest) => .ok ([v], rest)
      | .ok (',' :: rest) =>
        match skipFiller false rest with
        | .error e => .error e
        | .ok (']' :: rest) => .ok ([v], rest)
        | .ok rest =>
          match items fuel rest with
          | .ok (vs, rest) => .ok (v :: vs, rest)
          | .error e => .error e
      | .ok _ => malformed

/-- The entries of an inline table up to its closing brace, after some entries and the keys of those
that are closed. -/
def inlineEntries : Nat → Entries → List Key → List Char → Result Entries
  | 0, _, _, _ => malformed
  | fuel + 1, es, closed, cs =>
    match keyValue fuel cs with
    | .error e => .error e
    | .ok ((k, v), rest) =>
      if isClosed closed k then malformed
      else match changeAt false (addNew (k.getLastD "") v) k.dropLast es with
        | .error e => .error e
        | .ok es =>
          match skipSpace rest with
          | '\x7d' :: rest => .ok (es, rest)
          | ',' :: rest =>
            inlineEntries fuel es (if isContainer v then k :: closed else closed) (skipSpace rest)
          | _ => malformed

/-- A key, an equals sign and a value. -/
def keyValue : Nat → List Char → Result (Key × Value)
  | 0, _ => malformed
  | fuel + 1, cs =>
    match key cs with
    | .error e => .error e
    | .ok (k, '=' :: rest) =>
      match value fuel (skipSpace rest) with
      | .ok (v, rest) => .ok ((k, v), rest)
      | .error e => .error e
    | .ok _ => malformed

end

/-! ## Statements -/

/-- What has been read: the entries, the names that may not be declared again, those that dotted keys
of this section have used, those that are closed, and the header of the section. -/
structure State where
  entries : Entries := []
  declared : List Key := []
  used : List Key := []
  closed : List Key := []
  header : Key := []

namespace State

/-- Ends a section: the names its dotted keys used cannot be declared any more. -/
def endSection (s : State) : State := { s with declared := s.used ++ s.declared, used := [] }

/-- Declares a table. -/
def openTable (s : State) (k : Key) : Except Error State :=
  if s.declared.contains k || isClosed s.closed k then malformed
  else match changeAt true .ok k s.entries with
    | .ok es => .ok { s with entries := es, declared := k :: s.declared, header := k }
    | .error e => .error e

/-- Adds a table to a list of tables, which frees the names below it. -/
def openItem (s : State) (k : Key) : Except Error State :=
  if isClosed s.closed k then malformed
  else match changeAt true (addItem (k.getLastD "")) k.dropLast s.entries with
    | .ok es =>
      .ok { s with
        entries := es
        declared := k :: s.declared.filter fun d => !k.isPrefixOf d
        closed := s.closed.filter fun d => !k.isPrefixOf d
        header := k }
    | .error e => .error e

/-- The names between the header and the last part of a dotted key. -/
def innerKeys (s : State) (k : Key) : List Key :=
  (List.range (k.length - 1)).map fun n => s.header ++ k.take (n + 1)

/-- Adds an entry to the section. -/
def add (s : State) (k : Key) (v : Value) : Except Error State :=
  let parent := s.header ++ k.dropLast
  if (s.innerKeys k).any s.declared.contains || isClosed s.closed parent then malformed
  else match changeAt true (addNew (k.getLastD "") v) parent s.entries with
    | .ok es =>
      .ok { s with
        entries := es
        used := s.innerKeys k ++ s.used
        closed := if isContainer v then (s.header ++ k) :: s.closed else s.closed }
    | .error e => .error e

end State

/-- A header between brackets, of which the opening ones have been read. -/
def header (closing : List Char) (cs : List Char)
    (declare : Key → Except Error State) : Result State :=
  match key (skipSpace cs) with
  | .error e => .error e
  | .ok (k, rest) =>
    match declare k with
    | .error e => .error e
    | .ok s => if closing.isPrefixOf rest then .ok (s, rest.drop closing.length) else malformed

/-- One statement; a line may have none. -/
def statement (s : State) (cs : List Char) : Result State :=
  match cs with
  | '[' :: '[' :: rest => header [']', ']'] rest s.endSection.openItem
  | '[' :: rest => header [']'] rest s.endSection.openTable
  | [] => .ok (s, [])
  | c :: _ =>
    if c = '\n' || c = '#' then .ok (s, cs)
    else match keyValue (cs.length + 2) cs with
      | .error e => .error e
      | .ok ((k, v), rest) =>
        match s.add k v with
        | .ok s => .ok (s, rest)
        | .error e => .error e

/-- The statements of a document, at most `fuel` of them. -/
def statements : Nat → State → List Char → Except Error State
  | 0, _, _ => malformed
  | fuel + 1, s, cs =>
    match statement s (skipSpace cs) with
    | .error e => .error e
    | .ok (s, rest) =>
      match skipComment (skipSpace rest) with
      | .error e => .error e
      | .ok [] => .ok s
      | .ok ('\n' :: rest) => statements fuel s rest
      | .ok _ => malformed

/-- The entries of a document. -/
def parse (cs : List Char) : Except Error (List (String × Value)) :=
  (statements (cs.length + 1) {} cs).map State.entries

end NoteQuery.Toml
