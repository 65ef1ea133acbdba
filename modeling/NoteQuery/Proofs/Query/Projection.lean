import NoteQuery.Proofs.OrderedMaps
import NoteQuery.Query.Stages

/-!
# Projected records

A projected record has the requested names, each once, and stays what it is when it is projected
again. The parts of its file's identity stand where the names of these parts are requested, whatever
the fields of the record say.

* `reserved_of_notMem`, `projected_of_notMem`: names that stand for no part of the identity.
* `keys_project`, `get_project_of_mem`: the names and the values of a projected record.
* `project_project`: projecting twice.
* `select_eq_map`, `view_view`: the last stage of a query, with names or without.
-/

namespace NoteQuery.Stage

variable {names others : List String} {name : String} {r : Record}

/-! ## The parts of the identity -/

/-- The names that stand for the parts of a file's identity. -/
def identityNames : List String := ["title", "name", "path"]

theorem reserved_of_notMem (h : name ∉ identityNames) (file : FileIdentity) :
    reserved file name = none := by
  simp only [identityNames, List.mem_cons, List.not_mem_nil, or_false, not_or] at h
  rw [reserved, if_neg h.1, if_neg h.2.1, if_neg h.2.2]

theorem projected_of_notMem (h : name ∉ identityNames) (r : Record) :
    projected r name = r.get name := by
  rw [projected, reserved_of_notMem h]

/-! ## Projecting a record -/

theorem keys_project (names : List String) (r : Record) :
    (project names r).fields.keys = names.eraseDups := by
  rw [project, OrderedMap.keys_ofList, List.map_map]
  exact congrArg List.eraseDups (List.map_id names)

theorem get_project_of_mem (h : name ∈ names) : (project names r).get name = projected r name := by
  rw [Record.get, Record.get?, project, OrderedMap.get?_ofList_map, if_pos h]
  rfl

/-- A record shows its own value under a name if the name stands for no known part of its file, or
for one that the value says. -/
theorem projected_eq_get (h : ∀ s, reserved r.file name = some s → r.get name = .text s) :
    projected r name = r.get name := by
  cases hreserved : reserved r.file name with
  | none => rw [projected, hreserved]
  | some s => rw [projected, hreserved, h s hreserved]

theorem projected_project (h : name ∈ names) :
    projected (project names r) name = projected r name := by
  have hfile : reserved (project names r).file name = reserved r.file name := rfl
  cases hreserved : reserved r.file name with
  | none => rw [projected, hfile, hreserved, get_project_of_mem h]
  | some s => rw [projected, projected, hfile, hreserved]

/-- Of two projections the second one decides, if the first one leaves it its names. -/
theorem project_project (h : ∀ name ∈ others, name ∈ names) (r : Record) :
    project others (project names r) = project others r := by
  have hvalues : (others.map fun name => (name, projected (project names r) name)) =
      others.map fun name => (name, projected r name) :=
    List.map_congr_left fun name hname => by rw [projected_project (h name hname)]
  rw [project, hvalues]
  rfl

/-! ## The last stage -/

/-- The record as the last stage shows it. -/
def view (names : Option (List String)) (r : Record) : Record :=
  match names with
  | some (name :: names) => project (name :: names) r
  | _ => r

theorem select_eq_map (names : Option (List String)) (records : List Record) :
    select names records = records.map (view names) := by
  match names with
  | none => exact (List.map_id records).symm
  | some [] => exact (List.map_id records).symm
  | some (name :: names) => rfl

theorem view_of_ne_nil (h : names ≠ []) (r : Record) : view (some names) r = project names r := by
  cases names with
  | nil => exact absurd rfl h
  | cons name names => rfl

theorem view_file (names : Option (List String)) (r : Record) : (view names r).file = r.file := by
  match names with
  | none => rfl
  | some [] => rfl
  | some (name :: names) => rfl

theorem view_view (names : Option (List String)) (r : Record) :
    view names (view names r) = view names r := by
  match names with
  | none => rfl
  | some [] => rfl
  | some (name :: names) => exact project_project (fun _ h => h) r

end NoteQuery.Stage
