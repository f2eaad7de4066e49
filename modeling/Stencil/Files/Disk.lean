import Stencil.Files.Shelf

namespace Stencil

/-- What a path may name. -/
inductive Node
  /-- a file with its text; a file that holds no text has none -/
  | file (text : Option Text)
  | directory
  deriving DecidableEq, Repr

/-- A file system, seen from a working directory. -/
structure Disk where
  /-- the text of the working directory's path -/
  workingDir : Text
  look : Text → Except ReadError Node

namespace Disk

/-- Whether a path names anything. -/
def isPresent (disk : Disk) (path : Text) : Bool :=
  (disk.look path).isOk

/-- Whether a path names a file. -/
def isFile (disk : Disk) (path : Text) : Bool :=
  match disk.look path with
  | .ok (.file _) => true
  | _ => false

/-- The text of the file under a path. -/
def get (disk : Disk) (path : Text) : Except ReadError Text :=
  match disk.look path with
  | .error cause => .error cause
  | .ok .directory => .error .directory
  | .ok (.file none) => .error .notText
  | .ok (.file (some text)) => .ok text

end Disk

/-- A world with a file system. -/
class HasDisk (ω : Type) where
  disk : ω → Disk

instance : HasDisk Disk where
  disk := id

instance : HasDisk (Noted Disk) where
  disk := Noted.files

/-- Reading from a file system changes nothing. -/
instance {ω : Type} [HasDisk ω] : Reads ω where
  read path world := ((HasDisk.disk world).get path, world)

end Stencil
