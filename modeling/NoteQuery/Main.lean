import Std.Time
import NoteQuery.CommandLine.Reach

/-!
# The program

Tells the library about the machine, as far as the run reads it, and writes what comes out.
-/

namespace NoteQuery.Machine

/-- The path that a text stands for on this machine. -/
def place (path : String) := do return (← IO.currentDir) / path

/-- The file at a path with its bytes. -/
def file (path : String) : IO Tree := do
  return .file (← IO.FS.readBinFile (← place path)).toList

/-- The directory at a path with its notes at any depth. Other files in it are left empty, and linked
directories are not entered. -/
partial def directory (path : String) : IO Tree := do
  let entries ← (← place path).readDir
  let parts ← entries.toList.filterMapM fun entry => do
    if ← entry.path.isDir then
      if (← entry.path.symlinkMetadata).type == .symlink then return none
      return some (entry.fileName, ← directory entry.path.toString)
    if Scan.isNote [entry.fileName] then
      return some (entry.fileName, ← file entry.path.toString)
    return some (entry.fileName, .file [])
  return .directory parts

/-- The environment variables that are text. -/
def environment : IO (List (String × String)) := do
  let bytes ← IO.FS.readBinFile "/proc/self/environ"
  let texts := (bytes.toList.splitOn 0).filterMap fun part => String.fromUTF8? ⟨part.toArray⟩
  return texts.map fun text =>
    let (name, value) := CommandLine.Command.splitValue text.toList
    (String.ofList name, String.ofList (value.getD []))

/-- The home directories of the accounts. -/
def homes : IO (List (String × String)) := do
  let lines ← IO.FS.lines "/etc/passwd"
  return lines.toList.filterMap fun line =>
    match line.splitOn ":" with
    | [account, _, _, _, _, home, _] => some (account, home)
    | _ => none

/-- What is there, or nothing if it cannot be read. -/
def attempt {α : Type} (action : IO α) : IO (Option α) := do
  match ← action.toBaseIO with
  | .ok a => return some a
  | .error _ => return none

/-- The machine before any file is read. -/
def bareHost : IO Host := do
  let here := Path.ofString (← IO.currentDir).toString
  return {
    tree := (Tree.directory []).set (some (.directory [])) here.parts
    workingDirectory := here.parts
    environment := (← attempt environment).getD []
    homes := (← attempt homes).getD [] }

/-- Makes what is read at a path known to the host, and that the directories on the way are there. -/
def learn (read : String → IO Tree) (h : Host) (p : Path) : IO Host := do
  let some found ← attempt (read p.toString) | return h
  let way := (Path.selfAndAbove (h.locate p)).tail.reverse.map Path.normalParts
  let known (t : Tree) (parts : List String) : Tree :=
    match t.find parts with
    | .ok _ => t
    | .error _ => t.set (some (.directory [])) parts
  let ready := way.foldl known h.tree
  return { h with tree := ready.set (some found) (Path.normalParts (h.locate p)) }

/-- The time, in universal time. -/
def time : IO String := do
  let now := Std.Time.PlainDateTime.ofWallTime (.ofDuration (← Std.Time.Timestamp.now).val)
  let day : Day := ⟨now.date.year.toInt.toNat, now.date.month.val.toNat, now.date.day.val.toNat⟩
  let clock : Clock := ⟨now.time.hour.val.toNat, now.time.minute.val.toNat,
    now.time.second.val.toNat, now.time.nanosecond.val.toNat / 1000⟩
  return (Stamp.moment day clock none).iso "T" ++ "Z"

end NoteQuery.Machine

open NoteQuery in
def main (args : List String) : IO UInt32 := do
  let bare ← Machine.bareHost
  let files := CommandLine.settingsFiles bare args
  let configured ← files.foldlM (Machine.learn Machine.file) bare
  let directories := CommandLine.directories configured args
  let visited ← directories.foldlM (Machine.learn Machine.directory) bare
  let host ← files.foldlM (Machine.learn Machine.file) visited
  let run := CommandLine.run host (← Machine.time) args
  (← IO.getStdout).putStr run.stdout
  (← IO.getStderr).putStr (run.stderr ++ (run.escape.map fun e => e.message ++ "\n").getD "")
  return run.exit.toUInt32
