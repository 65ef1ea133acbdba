import NoteQuery.CommandLine.Run

/-!
# What a run reads

The places in a file tree that a run with given arguments looks at: first the files that may hold its
settings, then, once there are settings, the directory that its command is about. A host that knows
these places knows enough for the run.
-/

namespace NoteQuery.CommandLine

/-- The configuration file that is named by an option. -/
def namedFile (args : List String) : Option String :=
  match rootCommand.parse args with
  | .ok p => p.value? "config"
  | .error _ => none

/-- The files that may hold the settings. -/
def settingsFiles (h : Host) (args : List String) : List Path :=
  let named := [namedFile args, h.valueOf? Settings.fileVariable].filterMap fun file =>
    file.bind fun file => (Path.ofString file).expandHome h.home
  named ++ (Path.selfAndAbove h.workingDirectory).map fun directory =>
    ⟨.slash, directory ++ [Settings.fileName]⟩

/-- The sources that the words of a command line name. -/
def sources (s : Settings) : List String → List (Option String)
  | [] => []
  | command :: rest =>
    if command = "query" then
      match queryCommand.parse rest with
      | .ok p => [p.arguments.head?]
      | .error _ => []
    else (rest.filterMap s.views.get?).map View.source

/-- The directories whose notes may be read. -/
def directories (h : Host) (args : List String) : List Path :=
  match rootCommand.parse args with
  | .error _ => []
  | .ok p =>
    match Settings.load h (p.value? "config") none (flagsOf p) with
    | .error _ => []
    | .ok s => (sources s p.arguments).filterMap (Vault.directory h s)

end NoteQuery.CommandLine
