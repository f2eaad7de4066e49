import Stencil.Text.Blank
import Stencil.Text.Pieces
import Stencil.Text.Word

namespace Stencil.Markup

/-- The elements that a browser never takes to be empty: it reads `<div/>` as a start tag without an
end. -/
def neverEmpty : List Text :=
  ["textarea", "link", "td", "div", "span", "p", "a"]

/-- The name at the front of a text, among the names of `neverEmpty`, with what follows it. A name
ends where no word character follows. -/
def nameAt (t : Text) : Option (Text × Text) :=
  neverEmpty.findSome? fun name =>
    match Text.after? name t with
    | none => none
    | some [] => some (name, [])
    | some (c :: rest) => if Text.isWord c then none else some (name, c :: rest)

/-- A self-closed tag at the front of a text, with the two tags that stand for it. White space in
front of the slash is dropped. -/
def selfClosed : Text.Matcher Text
  | '<' :: t =>
    match nameAt t with
    | none => none
    | some (name, rest) =>
      let body := rest.takeWhile (· ≠ '>')
      match body.reverse, rest.drop body.length with
      | '/' :: inner, '>' :: _ =>
        let attributes := Text.trimEnd inner.reverse
        some ('<' :: name ++ attributes ++ "></" ++ name ++ ['>'], name.length + body.length + 1)
      | _, _ => none
  | _ => none

/-- Markup in which the elements of `neverEmpty` have both tags. -/
def expandSelfClosed (t : Text) : Text :=
  Text.replaceMatches selfClosed t

end Stencil.Markup
