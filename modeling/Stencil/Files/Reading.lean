import Stencil.Text.Basic

namespace Stencil

/-- A cause for which a file is not read. -/
inductive ReadError
  /-- no file has the path -/
  | missing
  /-- the path names a directory -/
  | directory
  /-- a component on the way is no directory -/
  | notDirectory
  /-- a component of the path is longer than any name can be -/
  | nameTooLong
  /-- the path holds a character that no path may hold -/
  | badPath
  /-- the file holds bytes that are no text -/
  | notText
  /-- a cause that the reader of the files words itself -/
  | other (message : Text)
  deriving DecidableEq, Repr

namespace ReadError

/-- How a cause is worded. -/
def message : ReadError → Text
  | missing => "No such file or directory (os error 2)"
  | directory => "Is a directory (os error 21)"
  | notDirectory => "Not a directory (os error 20)"
  | nameTooLong => "File name too long (os error 36)"
  | badPath => "file name contained an unexpected NUL byte"
  | notText => "stream did not contain valid UTF-8"
  | other message => message

end ReadError

/-- A place to read texts from. Reading may leave a note of the request. -/
class Reads (ω : Type) where
  read : Text → ω → Except ReadError Text × ω

end Stencil
