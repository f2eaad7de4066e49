import Stencil.Text.Basic

namespace Stencil.Path

/-- A path resolved against a base: a slash is put between the two unless the base is empty or ends
in one. An absolute path replaces the base, and nothing is normalised. -/
def join (base path : Text) : Text :=
  if path.head? = some '/' then path
  else if base = [] ∨ base.getLast? = some '/' then base ++ path
  else base ++ '/' :: path

/-- A path below a base directory. Slashes and backslashes at its front are dropped, so that it
never leaves for the root of the file system. -/
def below (baseDir path : Text) : Text :=
  join baseDir (path.dropWhile fun c => c = '/' || c = '\\')

/-- The components of a path between its slashes; two slashes in a row have an empty one between
them. -/
def components (path : Text) : List Text :=
  Text.splitAll '/' path

/-- The start of a path that no component is taken from: the root, or a leading `.`. -/
def anchor : Text → Text
  | '/' :: _ => ['/']
  | ['.'] => ['.']
  | '.' :: '/' :: _ => ['.']
  | _ => []

/-- Components without the empty ones and the `.` ones at the end. -/
def trimComponents (parts : List Text) : List Text :=
  (parts.reverse.dropWhile fun part => part = [] || part = ['.']).reverse

/-- The directory that a path names something in. The root and the empty path have none. -/
def parent (path : Text) : Option Text :=
  let start := anchor path
  let parts := trimComponents (components (path.drop start.length))
  if parts.isEmpty then
    if start = ['.'] then some [] else none
  else
    some (start ++ ['/'].intercalate (trimComponents parts.dropLast))

/-- A directory and the directories it lies in, from the inside to the outside, at most `fuel` of
them. -/
def ancestorsFrom : Nat → Text → List Text
  | 0, _ => []
  | fuel + 1, path => path :: ((parent path).map (ancestorsFrom fuel)).getD []

/-- A directory and the directories it lies in, from the inside to the outside. Each is shorter
than the one before. -/
def ancestors (path : Text) : List Text :=
  ancestorsFrom (path.length + 1) path

end Stencil.Path
