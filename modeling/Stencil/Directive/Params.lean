import Stencil.Text.Pieces

namespace Stencil

/-- What a parameter was given: a text, or nothing but its name. -/
inductive ParamValue
  | text (value : Text)
  | flag
  deriving DecidableEq, Repr

namespace ParamValue

/-- The text of a keyed parameter. -/
def asText : ParamValue → Option Text
  | text value => some value
  | flag => none

end ParamValue

/-- The parameters of a call, in the order in which their keys first appeared. -/
abbrev ParamSet := List (Text × ParamValue)

namespace ParamSet

/-- Sets a parameter: a key that is present keeps its place, a new one comes last. -/
def insert (key : Text) (value : ParamValue) : ParamSet → ParamSet
  | [] => [(key, value)]
  | (k, v) :: rest => if k = key then (k, value) :: rest else (k, v) :: insert key value rest

/-- The value of a key. -/
def value (params : ParamSet) (key : Text) : Option ParamValue :=
  List.lookup key params

/-- The text of a keyed parameter; a flag has none. -/
def get (params : ParamSet) (key : Text) : Option Text :=
  (params.value key).bind ParamValue.asText

/-- Whether a key is present, as a flag or with a text. -/
def contains (params : ParamSet) (key : Text) : Bool :=
  (params.value key).isSome

/-- Whether a key was given as a flag. -/
def isFlag (params : ParamSet) (key : Text) : Bool :=
  params.value key == some .flag

/-- Cuts a text at the commas that do not stand right behind a backslash. `escaped` says whether
the character before the text is a backslash. -/
def splitFrom : Bool → Text → List Text
  | _, [] => [[]]
  | escaped, c :: rest =>
    if c = ',' ∧ escaped = false then
      [] :: splitFrom false rest
    else
      match splitFrom (c == '\\') rest with
      | [] => [[c]]
      | piece :: pieces => (c :: piece) :: pieces

/-- The entries of a parameter list. -/
def split (list : Text) : List Text :=
  splitFrom false list

/-- A value as it was meant: an escaped comma is a comma. -/
def unescape (written : Text) : Text :=
  Text.replaceAll ['\\', ','] [','] written

/-- One entry: its first `=` divides key and value, and without one it is a flag. -/
def entry (written : Text) : Text × ParamValue :=
  match Text.cutFirst '=' written with
  | some (key, value) => (key, .text (unescape value))
  | none => (written, .flag)

/-- Adds entries from left to right. A repeated key has its first place and its last value. -/
def insertAll (params : ParamSet) (entries : List (Text × ParamValue)) : ParamSet :=
  entries.foldl (fun set (key, value) => set.insert key value) params

/-- Reads the text between the parentheses of a call. -/
def parse (list : Text) : ParamSet :=
  insertAll [] ((split list).map entry)

/-- Reads the parameters of a method part such as `title(notags)`: what stands between its first
`(` and its last `)`, nothing if there is no such pair. -/
def ofCall (method : Text) : ParamSet :=
  match Text.cutFirst '(' method with
  | none => []
  | some (_, rest) =>
    match Text.cutLast ')' rest with
    | none => []
    | some (list, _) => parse list

end ParamSet

end Stencil
