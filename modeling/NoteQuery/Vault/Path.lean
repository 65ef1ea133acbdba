/-!
# Paths

A path is a root and a list of components. Reading a path drops empty components and single dots and
keeps double dots, so that a path is written in one way only. Paths are ordered component by component.
-/

namespace NoteQuery

/-- What a path starts from. Two slashes at the start, and no more than two, are kept apart. -/
inductive PathRoot where
  | relative
  | slash
  | doubleSlash
  deriving DecidableEq, Repr, Inhabited

structure Path where
  root : PathRoot
  parts : List String
  deriving DecidableEq, Repr, Inhabited

namespace Path

def rootText : PathRoot → String
  | .relative => ""
  | .slash => "/"
  | .doubleSlash => "//"

def rootOf : List Char → PathRoot
  | '/' :: '/' :: '/' :: _ => .slash
  | '/' :: '/' :: _ => .doubleSlash
  | '/' :: _ => .slash
  | _ => .relative

/-- The components between slashes that lead anywhere. -/
def partsOf (cs : List Char) : List String :=
  ((cs.splitOn '/').filter fun part => part != [] && part != ['.']).map String.ofList

def ofString (s : String) : Path := ⟨rootOf s.toList, partsOf s.toList⟩

/-- The path as it is written; a path without root and components is a dot. -/
def toString (p : Path) : String :=
  if p.root = .relative && p.parts.isEmpty then "."
  else rootText p.root ++ "/".intercalate p.parts

def isAbsolute (p : Path) : Bool := p.root != .relative

/-- The path `q` seen from `p`. -/
def join (p q : Path) : Path := if q.isAbsolute then q else ⟨p.root, p.parts ++ q.parts⟩

def child (p : Path) (name : String) : Path := ⟨p.root, p.parts ++ [name]⟩

/-- The components with every double dot taken back, seen from the top. -/
def normalParts (parts : List String) : List String :=
  parts.foldl (fun acc part => if part = ".." then acc.dropLast else acc ++ [part]) []

/-- The absolute path without double dots that `p` stands for in a directory. -/
def resolve (directory : List String) (p : Path) : Path :=
  ⟨.slash, normalParts (if p.isAbsolute then p.parts else directory ++ p.parts)⟩

/-- The components of a directory and of all directories above it, the nearest first. -/
def selfAndAbove (parts : List String) : List (List String) :=
  (List.range (parts.length + 1)).reverse.map fun n => parts.take n

/-- The order of two lists of components. -/
def orderParts (ps qs : List String) : Ordering := compare ps qs

/-- Puts the home directory in place of a tilde at the start. There may be no home to put there, and a
home that has a tilde at its own start is none. -/
def expandHome (home : String → Option String) (p : Path) : Option Path :=
  match p.root, p.parts with
  | .relative, first :: rest =>
    match first.toList with
    | '~' :: account =>
      ((home (String.ofList account)).filter fun directory => directory.toList.head? != some '~').map
        fun directory => join (ofString directory) ⟨.relative, rest⟩
    | _ => some p
  | _, _ => some p

end Path

end NoteQuery
