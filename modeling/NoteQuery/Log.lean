import NoteQuery.Json.Writer

/-!
# Log

What happens on the way to an answer is told by events. An event has a level, a logger that tells the
part of the program it comes from, and a text; the two forms of a log line are made from these and the
time of writing.
-/

namespace NoteQuery

inductive Event where
  | filesFound (count : Nat) (directory : String)
  | noBlock (path : String)
  | strayItem (line : String)
  | unreadable (path reason : String)
  | matched (directory : String) (found total : Nat)
  deriving DecidableEq, Repr

/-- A value with the events on the way to it. -/
structure Logged (α : Type) where
  value : α
  events : List Event := []

namespace Event

/-- Warnings are always shown, all other events only in verbose runs. -/
def isWarning : Event → Bool
  | unreadable _ _ => true
  | _ => false

def level (e : Event) : String := if e.isWarning then "warning" else "debug"

def logger : Event → String
  | filesFound _ _ => "mdviews.infrastructure.filesystem"
  | unreadable _ _ => "mdviews.infrastructure.filesystem"
  | noBlock _ => "mdviews.domain.frontmatter"
  | strayItem _ => "mdviews.domain.frontmatter"
  | matched _ _ _ => "mdviews.services.views"

def text : Event → String
  | filesFound count directory =>
    "Found " ++ toString count ++ " markdown files in " ++ directory
  | noBlock path => "No frontmatter block in " ++ path
  | strayItem line => "Dropping list item outside a list: " ++ Text.quoted line
  | unreadable path reason => "Skipping unreadable file " ++ path ++ ": " ++ reason
  | matched directory found total =>
    "Query over " ++ directory ++ " matched " ++ toString found ++ " of " ++ toString total ++
      " documents"

/-- A text with spaces after it, for at least `n` characters. -/
def filled (n : Nat) (s : String) : String :=
  s ++ String.ofList (List.replicate (n - s.length) ' ')

def consoleLine (time : String) (e : Event) : String :=
  time ++ " [" ++ filled 9 e.level ++ "] " ++ filled 30 e.text ++ " [" ++ e.logger ++ "]"

def jsonLine (time : String) (e : Event) : String :=
  String.ofList (Json.line Json.spaced (.table [("event", .text e.text), ("level", .text e.level),
    ("logger", .text e.logger), ("timestamp", .text time)]))

/-- The log lines of a run. -/
def lines (verbose json : Bool) (time : String) (events : List Event) : List String :=
  (events.filter fun e => verbose || e.isWarning).map
    (if json then jsonLine time else consoleLine time)

end Event

end NoteQuery
