import NoteQuery.Settings.Basic
import NoteQuery.Settings.Sources
import NoteQuery.Toml.Document
import NoteQuery.Vault.Host

/-!
# Loading settings

Settings are loaded from a configuration file, the environment and the flags of a call, each put over
the one before. Unless a call names the file, it is looked for: the environment may name it, otherwise
the nearest one in the start directory or a directory above it is taken.
-/

namespace NoteQuery

/-- Why there are no settings. -/
inductive LoadError where
  | fileNotFound (path : Path)
  | malformedFile (path : Path)
  | rejected (source : String) (r : Rejection)
  | unreadableVariable (setting : String)
  | unreadableFile (path : Path) (e : Host.ReadError)
  | hugeInteger (digits : Nat)
  | noHome
  deriving DecidableEq, Repr

def LoadError.message : LoadError → String
  | fileNotFound path => "Config file not found: " ++ path.toString
  | malformedFile path => "Invalid TOML in " ++ path.toString
  | rejected source r => "Invalid configuration in " ++ source ++ ": " ++ r.message
  | unreadableVariable setting =>
    "error parsing value for field \"" ++ setting ++ "\" from source \"EnvSettingsSource\""
  | unreadableFile path e => e.message path
  | hugeInteger digits =>
    "Exceeds the limit (" ++ toString Text.digitLimit ++
      " digits) for integer string conversion: value has " ++ toString digits ++
      " digits; use sys.set_int_max_str_digits() to increase the limit"
  | noHome => "Could not determine home directory."

/-- Whether the error is about the configuration itself and reported as such. -/
def LoadError.isConfiguration : LoadError → Bool
  | fileNotFound _ => true
  | malformedFile _ => true
  | rejected _ _ => true
  | _ => false

namespace Settings

def fileName : String := "mdviews.toml"

def fileVariable : String := "MDVIEWS_CONFIG"

def expand (h : Host) (p : Path) : Except LoadError Path :=
  match p.expandHome h.home with
  | some p => .ok p
  | none => .error .noHome

/-- The configuration file of a directory, if it has one. -/
def fileIn? (h : Host) (directory : List String) : Option Path :=
  let path : Path := ⟨.slash, directory ++ [fileName]⟩
  if h.isFile path then some path else none

/-- The nearest configuration file at or above a directory. -/
def nearestFile? (h : Host) (directory : List String) : Option Path :=
  (Path.selfAndAbove directory).findSome? (fileIn? h)

/-- The configuration file for a start directory. A variable that names a file ends the search, even
if there is no such file. -/
def findFile (h : Host) (start : Option Path) : Except LoadError (Option Path) :=
  match (h.valueOf? fileVariable).filter (· != "") with
  | some named =>
    match expand h (Path.ofString named) with
    | .ok path => .ok (if h.isFile path then some path else none)
    | .error e => .error e
  | none =>
    let start := start.getD h.currentDirectory
    .ok (nearestFile? h (Path.resolve h.workingDirectory start).parts)

/-- The configuration file of a call: the one it names, or the one that is found. -/
def locateFile (h : Host) (named : Option String) (start : Option Path) :
    Except LoadError (Option Path) :=
  match named.filter (· != "") with
  | some named =>
    match expand h (Path.ofString named) with
    | .ok path => if h.isFile path then .ok (some path) else .error (.fileNotFound path)
    | .error e => .error e
  | none => findFile h start

/-- The entries of a configuration file. -/
def fileEntries (h : Host) : Option Path → Except LoadError (List (String × Value))
  | none => .ok []
  | some path =>
    match h.readText path with
    | .error e => .error (.unreadableFile path e)
    | .ok text =>
      match Toml.parse text with
      | .ok entries => .ok entries
      | .error .malformed => .error (.malformedFile path)
      | .error (.hugeInteger digits) => .error (.hugeInteger digits)

/-- The entries of the flags of a call. The file that was located is always among them. -/
def flagEntries (path : Option Path) (flags : List (String × Value)) : List (String × Value) :=
  ("config_path", match path with
    | some path => .text path.toString
    | none => .null) :: flags

/-- The entries that are checked: file, environment and flags put over each other. -/
def sourceEntries (file environment flags : List (String × Value)) : List (String × Value) :=
  overlay file (overlay environment flags)

/-- The home of some settings expanded. It is the first setting that is looked at. -/
def expandedHome (h : Host) (entries : List (String × Value)) : Except LoadError (Option Path) :=
  match Value.lookup? "home" entries with
  | some (.text s) => (expand h (Path.ofString s)).map some
  | _ => .ok none

def checked (h : Host) (path : Option Path) (entries : List (String × Value)) :
    Except LoadError Settings :=
  match expandedHome h entries with
  | .error e => .error e
  | .ok home =>
    match ofEntries entries with
    | .ok s => .ok { s with home := home }
    | .error r =>
      .error (.rejected (match path with
        | some path => path.toString
        | none => "environment") r)

/-- The settings of a call with a named file, a start directory and flags. -/
def load (h : Host) (named : Option String) (start : Option Path)
    (flags : List (String × Value)) : Except LoadError Settings :=
  match locateFile h named start with
  | .error e => .error e
  | .ok path =>
    match fileEntries h path with
    | .error e => .error e
    | .ok file =>
      match Environment.entries h.environment with
      | .error setting => .error (.unreadableVariable setting)
      | .ok environment =>
        checked h path (sourceEntries file environment (flagEntries path flags))

end Settings

end NoteQuery
