import NoteQuery.Log
import NoteQuery.Note.Document
import NoteQuery.Vault.Host

/-!
# Scanning a directory

The notes of a directory are its files that end in `.md`, at any depth or directly in it, but for
those under a directory of another program. A scan reads all of them in the order of their paths.
What cannot be read gives a warning and no record.
-/

namespace NoteQuery

/-- What a scan has found. -/
structure Scan where
  records : List Record := []
  warnings : List String := []
  deriving Inhabited

namespace Scan

/-- The directories that are not entered. -/
def skipped : List String := [".git", ".obsidian", ".trash"]

/-- Whether the components below a directory lead to a note. -/
def isNote (parts : List String) : Bool :=
  ".md".toList.isSuffixOf (parts.getLastD "").toList && !parts.any skipped.contains

/-- The notes below a directory tree, as components from there, in order. -/
def notesIn (t : Tree) (recursive : Bool) : List (List String) :=
  (((if recursive then t.files else t.ownFiles).filter isNote)).mergeSort
    fun ps qs => (Path.orderParts ps qs).isLE

/-- The paths of the notes in a directory. A path that leads to no directory has none. -/
def notes (h : Host) (directory : Path) (recursive : Bool) : List Path :=
  match h.find directory with
  | .ok t => (notesIn t recursive).map fun parts => ⟨directory.root, directory.parts ++ parts⟩
  | .error _ => []

/-- What there is to say about a document besides its record. -/
def remarks (content : List Char) (path : String) : List Event :=
  match Document.block? content with
  | none => [.noBlock path]
  | some body => (Body.strayItems body).map fun i => .strayItem (String.ofList i.line)

/-- The record of a file. -/
def readNote (h : Host) (p : Path) : Except Host.ReadError (Logged Record) :=
  match h.readText p with
  | .ok content =>
    .ok ⟨Document.record (String.ofList content) p.toString, remarks content p.toString⟩
  | .error e => .error e

/-- Adds one file in front of what was found behind it. -/
def addNote (h : Host) (p : Path) (rest : Logged Scan) : Logged Scan :=
  match readNote h p with
  | .ok note =>
    ⟨{ rest.value with records := note.value :: rest.value.records }, note.events ++ rest.events⟩
  | .error e =>
    let reason := e.message p
    ⟨{ rest.value with
        warnings := ("Could not read " ++ p.toString ++ ": " ++ reason) :: rest.value.warnings },
      .unreadable p.toString reason :: rest.events⟩

/-- The records and warnings of some files, in their order. -/
def ofPaths (h : Host) (paths : List Path) : Logged Scan := paths.foldr (addNote h) ⟨{}, []⟩

/-- Reads every note of a directory. -/
def run (h : Host) (directory : Path) (recursive : Bool) : Logged Scan :=
  let paths := notes h directory recursive
  let scan := ofPaths h paths
  ⟨scan.value, .filesFound paths.length directory.toString :: scan.events⟩

end Scan

end NoteQuery
