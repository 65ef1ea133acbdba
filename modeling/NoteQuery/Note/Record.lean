import NoteQuery.OrderedMap
import NoteQuery.Text.Basic
import NoteQuery.Value.Order

/-!
# Records

A record is what is known of one note: where it came from and the fields of its block. The identity
of the file is no part of the fields.
-/

namespace NoteQuery

/-- Where a note came from. Any part may be unknown. -/
structure FileIdentity where
  path : Option String := none
  name : Option String := none
  title : Option String := none
  deriving DecidableEq, Repr, Inhabited

/-- The identity of the file at a path: its last component is the name, and the name without `.md`
is the title. -/
def FileIdentity.ofPath (path : String) : FileIdentity :=
  let name := Text.afterLast '/' path.toList
  ⟨some path, some (String.ofList name), some (String.ofList (Text.withoutEnd ".md".toList name))⟩

structure Record where
  file : FileIdentity
  fields : OrderedMap Value
  deriving Inhabited

namespace Record

def get? (r : Record) (name : String) : Option Value := r.fields.get? name

/-- The value of a field; a missing field is null. -/
def get (r : Record) (name : String) : Value := Value.orNull (r.get? name)

/-- Records are the same if they come from the same file and have the same fields in any order. -/
def same (r s : Record) : Bool :=
  r.file == s.file && Value.same (.table r.fields.entries) (.table s.fields.entries)

end Record

end NoteQuery
