import Stencil.Directive.Params
import Stencil.Entity.Basic

namespace Stencil

/-- What a directive asks for. -/
inductive Target
  | bare (name : Text)
  | call (plugin method : Text) (params : ParamSet)
  deriving DecidableEq, Repr

/-- A directive: its token as it stands in the document, its decoded payload, and its target. -/
structure Directive where
  raw : Text
  payload : Text
  target : Target
  deriving DecidableEq, Repr

namespace Target

/-- Reads a decoded payload. With a point in it, it calls a method of a plugin; any other is a bare
name. -/
def parse (payload : Text) : Target :=
  match Text.cutFirst '.' payload with
  | none => .bare payload
  | some (plugin, method) =>
    match Text.cutFirst '(' method with
    | none => .call plugin method []
    | some (name, _) => .call plugin name (ParamSet.ofCall method)

end Target

namespace Directive

/-- The directive of a token with the given payload, whose references are decoded first. -/
def parse (raw payload : Text) : Directive :=
  let payload := Entity.decode payload
  ⟨raw, payload, Target.parse payload⟩

/-- The token that carries a payload. -/
def token (payload : Text) : Text :=
  '{' :: '{' :: payload ++ ['}', '}']

/-- A token at the front of a text, found by its payload: the payload reaches to the first closing
brace, and a second closing brace follows that one. -/
def tokenAt : Text.Matcher Text
  | '{' :: '{' :: rest =>
    let payload := rest.takeWhile (· ≠ '}')
    match rest.drop payload.length with
    | '}' :: '}' :: _ => some (payload, payload.length + 3)
    | _ => none
  | _ => none

/-- The payloads of all tokens of a text, from left to right. -/
def payloads (t : Text) : List Text :=
  Text.matchesOf tokenAt t

/-- The directives of a text: each distinct token once, in the order of first occurrence. -/
def scan (t : Text) : List Directive :=
  (payloads t).eraseDups.map fun payload => parse (token payload) payload

end Directive

end Stencil
