import NoteQuery.Text.Quoted
import NoteQuery.Text.Utf8
import NoteQuery.Vault.Path

/-!
# File trees

A directory tree as a value: a file is its bytes, a directory is its entries by name. Looking a path
up walks the tree from its root; a double dot goes back to the directory before. There are no links.
-/

namespace NoteQuery

inductive Tree where
  | file (bytes : List UInt8)
  | directory (entries : List (String × Tree))

instance : Inhabited Tree := ⟨.directory []⟩

/-- Why there is nothing to read at a path. -/
inductive FileError where
  | notFound
  | notDirectory
  | isDirectory
  deriving DecidableEq, Repr

def FileError.message (path : String) : FileError → String
  | notFound => "[Errno 2] No such file or directory: " ++ Text.quoted path
  | notDirectory => "[Errno 20] Not a directory: " ++ Text.quoted path
  | isDirectory => "[Errno 21] Is a directory: " ++ Text.quoted path

namespace Tree

def isFile : Tree → Bool
  | file _ => true
  | directory _ => false

/-- Walks down from a tree; `above` holds the directories that were passed, the nearest first. -/
def walk (above : List Tree) (t : Tree) : List String → Except FileError Tree
  | [] => .ok t
  | part :: parts =>
    match t with
    | file _ => .error .notDirectory
    | directory entries =>
      if part = ".." then
        match above with
        | [] => walk [] t parts
        | parent :: rest => walk rest parent parts
      else match entries.lookup part with
        | some next => walk (t :: above) next parts
        | none => .error .notFound

/-- The tree at the end of some components. -/
def find (t : Tree) (parts : List String) : Except FileError Tree := walk [] t parts

/-! ## Changing -/

/-- The entries with one of them set or removed. -/
def setEntry (name : String) (t : Option Tree) (entries : List (String × Tree)) :
    List (String × Tree) :=
  let others := entries.filter fun e => e.1 != name
  match t with
  | some t => others ++ [(name, t)]
  | none => others

/-- The tree with a new tree, or nothing, at the end of some components. Directories on the way are
made if they are missing. -/
def set (new : Option Tree) (t : Tree) : List String → Tree
  | [] => new.getD t
  | part :: parts =>
    let entries := match t with
      | directory entries => entries
      | file _ => []
    let below := (entries.lookup part).getD (directory [])
    match parts with
    | [] => directory (setEntry part new entries)
    | _ => directory (setEntry part (some (set new below parts)) entries)

/-! ## Listing -/

mutual

/-- The files below a directory, as components from there. -/
def files : Tree → List (List String)
  | file _ => []
  | directory entries => filesOf entries

def filesOf : List (String × Tree) → List (List String)
  | [] => []
  | (name, file _) :: rest => [name] :: filesOf rest
  | (name, directory entries) :: rest => (filesOf entries).map (name :: ·) ++ filesOf rest

end

/-- The names of the files directly in a directory. -/
def ownFiles : Tree → List (List String)
  | file _ => []
  | directory entries => entries.filterMap fun e => if e.2.isFile then some [e.1] else none

end Tree

end NoteQuery
