import Stencil.Text.Alphanumeric
import Stencil.Text.Pieces

namespace Stencil

/-- The variables that are set, with their values. -/
abbrev Environment := List (Text × Text)

namespace Environment

/-- The value of a variable. Variables are kept in the form `NAME=VALUE` and are found by what
stands in front of a `=`. -/
def get (env : Environment) (name : Text) : Option Text :=
  if name.isEmpty then none
  else env.findSome? fun (n, value) => Text.after? (name ++ ['=']) (n ++ '=' :: value)

/-- The value of a variable that has to be set; otherwise its name. -/
def require (env : Environment) (name : Text) : Except Text Text :=
  match env.get name with
  | some value => .ok value
  | none => .error name

/-- A character of a name without braces. -/
def isNameChar (c : Char) : Bool :=
  Text.isAlphanumeric c || c = '_'

/-- What a reference between braces stands for. A default follows the first `:-`, unless no name
stands in front of it. -/
def braced (env : Environment) (body : Text) : Except Text Text :=
  match Text.cutAt ":-" body with
  | some (name, default) =>
    if name.isEmpty then env.require body else .ok ((env.get name).getD default)
  | none => env.require body

/-- Replaces references from left to right; `skip` characters belong to a reference already
replaced, and what is put in is not looked at again. The first variable that is not set is named. -/
def expandFrom (env : Environment) : Nat → Text → Except Text Text
  | _, [] => .ok []
  | skip + 1, _ :: t => expandFrom env skip t
  | 0, c :: t =>
    if c ≠ '$' then (expandFrom env 0 t).map (c :: ·)
    else
      match t with
      | '{' :: rest =>
        match Text.cutFirst '}' rest with
        | none => (expandFrom env 1 t).map fun s => '$' :: '{' :: s
        | some (body, _) =>
          match env.braced body with
          | .error name => .error name
          | .ok value => (expandFrom env (body.length + 2) t).map (value ++ ·)
      | '$' :: _ => (expandFrom env 1 t).map ('$' :: ·)
      | _ =>
        let name := t.takeWhile isNameChar
        if name.isEmpty then (expandFrom env 0 t).map ('$' :: ·)
        else
          match env.require name with
          | .error name => .error name
          | .ok value => (expandFrom env name.length t).map (value ++ ·)

/-- A reference at the front of a text, by the names it may look up. -/
def referenceAt : Text.Matcher (List Text)
  | '$' :: '{' :: rest =>
    (Text.cutFirst '}' rest).map fun (body, _) =>
      (body :: ((Text.cutAt ":-" body).map Prod.fst).toList, body.length + 2)
  | '$' :: rest =>
    let name := rest.takeWhile isNameChar
    if name.isEmpty then none else some ([name], name.length)
  | _ => none

/-- The names that replacing the references of a value may look up. -/
def references (value : Text) : List Text :=
  (Text.matchesOf referenceAt value).flatten

/-- A value with its references `${NAME}`, `${NAME:-default}` and `$NAME` replaced, or the name of
the first variable that is not set. A value without one of the braced forms is left alone. -/
def expand (env : Environment) (value : Text) : Except Text Text :=
  if Text.holds ['$', '{'] value then expandFrom env 0 value else .ok value

end Environment

end Stencil
