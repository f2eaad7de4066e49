import Stencil.Files.Disk
import Stencil.Path

namespace Stencil

/-- A tree: what lies at a place, a place being the names on the way from the root. -/
structure Tree where
  entries : List (List Text × Node)

namespace Tree

/-- A tree with nothing but its root. -/
def empty : Tree := ⟨[]⟩

/-- What lies at a place. The root is a directory. -/
def at? (tree : Tree) (place : List Text) : Option Node :=
  if place.isEmpty then some .directory else tree.entries.lookup place

/-- The names in a path that are not `.`. -/
def names (path : Text) : List Text :=
  (Path.components path).filter fun part => part ≠ [] && part ≠ ['.']

/-- Puts something at a place, in the stead of what was there. -/
def set (tree : Tree) (place : List Text) (node : Node) : Tree :=
  ⟨(place, node) :: tree.entries.filter fun entry => entry.1 ≠ place⟩

/-- Makes the directories on a way from a place, where they are not there yet. -/
def makeDirectories (place : List Text) : List Text → Tree → Tree
  | [], tree => tree
  | name :: rest, tree =>
    let next := place ++ [name]
    makeDirectories next rest (if (tree.at? next).isSome then tree else tree.set next .directory)

/-- Puts something at a place, together with the directories on the way. -/
def put (tree : Tree) (place : List Text) (node : Node) : Tree :=
  (makeDirectories [] place.dropLast tree).set place node

/-- Takes away what lies at a place. -/
def remove (tree : Tree) (place : List Text) : Tree :=
  ⟨tree.entries.filter fun entry => entry.1 ≠ place⟩

/-- The greatest number of bytes in a name. -/
def maxName : Nat := 255

/-- The number of bytes that a path stays below. -/
def maxPath : Nat := 4096

/-- Follows names from a place: `.` stays, and `..` goes back to the directory one came from. Every
name, also an empty one, has to be followed from a directory. -/
def follow (tree : Tree) : List Text → List Text → Except ReadError (List Text)
  | place, [] => .ok place
  | place, name :: rest =>
    if tree.at? place ≠ some .directory then .error .notDirectory
    else if name = [] ∨ name = ['.'] then follow tree place rest
    else if name = ['.', '.'] then follow tree place.dropLast rest
    else if Text.bytes name > maxName then .error .nameTooLong
    else if (tree.at? (place ++ [name])).isNone then .error .missing
    else follow tree (place ++ [name]) rest

/-- What a path names, seen from a working directory. -/
def look (tree : Tree) (workingDir : List Text) (path : Text) : Except ReadError Node :=
  if path.contains '\x00' then .error .badPath
  else if path = [] then .error .missing
  else if Text.bytes path ≥ maxPath then .error .nameTooLong
  else
    let start := if path.head? = some '/' then [] else workingDir
    match tree.follow start (Path.components path) with
    | .error cause => .error cause
    | .ok place => .ok ((tree.at? place).getD .directory)

/-- The path of a place, from the root. -/
def pathOf (place : List Text) : Text :=
  if place.isEmpty then ['/'] else place.flatMap fun name => '/' :: name

/-- The tree as a file system, seen from a place in it. -/
def disk (tree : Tree) (workingDir : List Text) : Disk where
  workingDir := pathOf workingDir
  look := tree.look workingDir

end Tree

end Stencil
