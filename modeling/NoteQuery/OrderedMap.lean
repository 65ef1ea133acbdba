/-!
# Ordered maps

A map from names to values that remembers the order in which its names came. A name that is given a
second value keeps its first place. That no name occurs twice is part of the type.

* `get?_insert`: a name has the value that was inserted last, every other name keeps its own.
* `keys_insert`: inserting changes the names only by a new one at the end.
-/

namespace NoteQuery

/-- Gives `name` the value `v`, in its place if it has one and at the end otherwise. -/
def insertEntry {α : Type} (name : String) (v : α) : List (String × α) → List (String × α)
  | [] => [(name, v)]
  | e :: es => if e.1 = name then (name, v) :: es else e :: insertEntry name v es

theorem map_fst_insertEntry {α : Type} (name : String) (v : α) (es : List (String × α)) :
    (insertEntry name v es).map Prod.fst =
      if name ∈ es.map Prod.fst then es.map Prod.fst else es.map Prod.fst ++ [name] := by
  induction es with
  | nil => simp [insertEntry]
  | cons e es ih => grind [insertEntry]

theorem lookup_insertEntry {α : Type} (name other : String) (v : α) (es : List (String × α)) :
    (insertEntry name v es).lookup other = if other = name then some v else es.lookup other := by
  induction es with
  | nil => grind [insertEntry]
  | cons e es ih => grind [insertEntry]

structure OrderedMap (α : Type) where
  entries : List (String × α)
  nodup : (entries.map Prod.fst).Nodup

namespace OrderedMap

variable {α β : Type}

instance : Inhabited (OrderedMap α) := ⟨⟨[], by simp⟩⟩

def empty : OrderedMap α := ⟨[], by simp⟩

def keys (m : OrderedMap α) : List String := m.entries.map Prod.fst

def size (m : OrderedMap α) : Nat := m.entries.length

def get? (m : OrderedMap α) (name : String) : Option α := m.entries.lookup name

def contains (m : OrderedMap α) (name : String) : Bool := (m.get? name).isSome

def insert (m : OrderedMap α) (name : String) (v : α) : OrderedMap α where
  entries := insertEntry name v m.entries
  nodup := by
    rw [map_fst_insertEntry]
    split
    · exact m.nodup
    · rename_i h
      exact List.nodup_append.2 ⟨m.nodup, by simp, by grind⟩

/-- The map that inserting the entries one after the other leads to. -/
def ofList (es : List (String × α)) : OrderedMap α :=
  es.foldl (fun m e => m.insert e.1 e.2) empty

def map (f : α → β) (m : OrderedMap α) : OrderedMap β where
  entries := m.entries.map fun e => (e.1, f e.2)
  nodup := by simpa [Function.comp_def] using m.nodup

theorem ext {m n : OrderedMap α} (h : m.entries = n.entries) : m = n := by
  cases m
  cases n
  simpa using h

@[simp] theorem get?_empty (name : String) : (empty : OrderedMap α).get? name = none := rfl

@[simp] theorem keys_empty : (empty : OrderedMap α).keys = [] := rfl

theorem get?_insert (m : OrderedMap α) (name other : String) (v : α) :
    (m.insert name v).get? other = if other = name then some v else m.get? other :=
  lookup_insertEntry name other v m.entries

theorem keys_insert (m : OrderedMap α) (name : String) (v : α) :
    (m.insert name v).keys = if name ∈ m.keys then m.keys else m.keys ++ [name] :=
  map_fst_insertEntry name v m.entries

end OrderedMap

end NoteQuery
