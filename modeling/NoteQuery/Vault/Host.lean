import NoteQuery.Vault.Tree

/-!
# Hosts

What the library is told about the machine it runs on: the file tree, the working directory, the
environment variables, and the home directories of accounts.
-/

namespace NoteQuery

structure Host where
  tree : Tree
  workingDirectory : List String
  environment : List (String × String)
  homes : List (String × String)
  deriving Inhabited

namespace Host

/-- The components of a path from the root of the tree. -/
def locate (h : Host) (p : Path) : List String :=
  if p.isAbsolute then p.parts else h.workingDirectory ++ p.parts

def find (h : Host) (p : Path) : Except FileError Tree := h.tree.find (h.locate p)

def isFile (h : Host) (p : Path) : Bool :=
  match h.find p with
  | .ok t => t.isFile
  | .error _ => false

def isDirectory (h : Host) (p : Path) : Bool :=
  match h.find p with
  | .ok t => !t.isFile
  | .error _ => false

def currentDirectory (h : Host) : Path := ⟨.slash, h.workingDirectory⟩

def valueOf? (h : Host) (name : String) : Option String := h.environment.lookup name

/-- A directory without slashes at its end; the bare root stays. -/
def withoutSlashes (s : String) : String :=
  let cs := (s.toList.reverse.dropWhile (· == '/')).reverse
  if cs.isEmpty then "/" else String.ofList cs

/-- The home directory of an account. The account without a name is the user's own, whose home the
environment may set. -/
def home (h : Host) (account : String) : Option String :=
  let known := h.homes.lookup account
  (if account = "" then (h.valueOf? "HOME").or known else known).map withoutSlashes

/-- Why a file has no text. -/
inductive ReadError where
  | file (e : FileError)
  | encoding (f : Utf8.Fault)
  deriving DecidableEq, Repr

def ReadError.message (path : Path) : ReadError → String
  | file e => e.message path.toString
  | encoding f => f.message

/-- The text of a file, with line feeds at the ends of its lines. -/
def readText (h : Host) (p : Path) : Except ReadError (List Char) :=
  match h.find p with
  | .error e => .error (.file e)
  | .ok (.directory _) => .error (.file .isDirectory)
  | .ok (.file bytes) =>
    match Utf8.decode bytes with
    | .ok cs => .ok (Utf8.joinNewlines cs)
    | .error f => .error (.encoding f)

end Host

end NoteQuery
