import NoteQuery.Vault.Operations
import NoteQuery.Vault.Pool

/-!
# Scanning with workers

The notes of a directory may be read by several workers at once, who share them in a pool. What
reading a file comes to is left open here: a file has a text, or a reason why it has none. A query over
a directory lets the settings tell how many workers there are.
-/

namespace NoteQuery

/-- What reading files comes to: the text of a file, or the reason why it has none. -/
abbrev FileReader := Path → Except String (List Char)

/-- The files of a host. -/
def Host.reader (h : Host) : FileReader := fun p => (h.readText p).mapError (·.message p)

namespace Scan

/-- What becomes of one note: its record, or a warning. -/
def outcome (read : FileReader) (p : Path) : Except String Record :=
  match read p with
  | .ok content => .ok (Document.record (String.ofList content) p.toString)
  | .error reason => .error ("Could not read " ++ p.toString ++ ": " ++ reason)

/-- Adds the outcome of one more note behind what was found before. -/
def keep (scan : Scan) : Except String Record → Scan
  | .ok r => { scan with records := scan.records ++ [r] }
  | .error warning => { scan with warnings := scan.warnings ++ [warning] }

def ofOutcomes (outcomes : List (Except String Record)) : Scan := outcomes.foldl keep {}

/-- The outcomes of some notes. Several workers share several notes in a pool; a single worker, or one
for a single note, goes through them. -/
inductive Outcomes (read : FileReader) (workers : Nat) (paths : List Path) :
    List (Except String Record) → Prop
  | pool {outcomes : List (Except String Record)} (several : 1 < workers ∧ 1 < paths.length)
      (mapped : Pool.Maps workers (outcome read) paths outcomes) :
      Outcomes read workers paths outcomes
  | loop (single : ¬ (1 < workers ∧ 1 < paths.length)) :
      Outcomes read workers paths (paths.map (outcome read))

/-- A scan of a directory by some workers. -/
def RunsTo (h : Host) (directory : Path) (recursive : Bool) (workers : Nat) (read : FileReader)
    (scan : Scan) : Prop :=
  ∃ outcomes, Outcomes read workers (notes h directory recursive) outcomes ∧
    scan = ofOutcomes outcomes

end Scan

namespace Vault

/-- The outcome of a request once the scan of its directory is there. -/
def answer (s : Settings) (r : Request) (directory : Path) (scan : Scan) :
    Except Interruption Outcome :=
  match r.query.run scan.records with
  | .error e => .error (.condition e)
  | .ok found =>
    .ok { ok := true, op := r.op, data := answerData s r directory found,
          warnings := scanWarnings scan directory }

/-- A query over a directory that is scanned by as many workers as the settings tell. -/
def AsksWith (read : FileReader) (h : Host) (s : Settings) (r : Request)
    (o : Except Interruption Outcome) : Prop :=
  match directory h s r.source with
  | none => o = .error .noHome
  | some dir =>
    if h.isDirectory dir then
      ∃ scan, Scan.RunsTo h dir s.scan.recursive s.scan.workers.toNat read scan ∧
        o = answer s r dir scan
    else
      o = .ok (Outcome.failed r.op "SOURCE_NOT_FOUND" ("Not a directory: " ++ dir.toString)
        [("source", .text dir.toString)])

end Vault

end NoteQuery
