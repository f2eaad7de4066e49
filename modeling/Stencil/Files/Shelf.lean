import Stencil.Plugin.Action

namespace Stencil

/-- Files `φ` together with a journal, the latest note last. -/
structure Noted (φ : Type) where
  files : φ
  notes : List Note

namespace Noted

variable {φ : Type}

/-- Adds a note. -/
def add (note : Note) (world : Noted φ) : Noted φ :=
  { world with notes := world.notes ++ [note] }

instance : Journal (Noted φ) where
  note := add

end Noted

/-- Documents that are found by the exact text of their path; some of them cannot be read. -/
structure Shelf where
  documents : List (Text × Except ReadError Text)

namespace Shelf

/-- What is read under a path. -/
def get (shelf : Shelf) (path : Text) : Except ReadError Text :=
  match shelf.documents.lookup path with
  | some document => document
  | none => .error (.other "no such file")

/-- Every request is noted. -/
instance : Reads (Noted Shelf) where
  read path world := (world.files.get path, world.add (.read path))

end Shelf

end Stencil
