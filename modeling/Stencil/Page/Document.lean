import Stencil.Markup.Attribute
import Stencil.Markup.Tags

namespace Stencil.Page

/-- A child of the root element. It is known by its name and its attributes; what is inside it is
kept as it is written. -/
structure Element where
  name : Text
  /-- in the order of the document, with the meanings of their values -/
  attributes : List (Text × Text)
  /-- what stands between its tags -/
  inner : Text
  /-- the whole element -/
  outer : Text
  deriving DecidableEq, Repr

namespace Element

/-- What stands between its tags, without tags. -/
def innerText (element : Element) : Text :=
  Markup.stripTags element.inner

/-- The value of an attribute. -/
def attr (element : Element) (key : Text) : Option Text :=
  element.attributes.lookup key

end Element

/-- A cause for which a document cannot be read. -/
inductive DocumentError
  | markup (cause : Markup.ReadFault)
  | attributes (cause : Markup.AttributeFault)
  /-- a part of the document would begin or end inside a character -/
  | splitCharacter
  deriving DecidableEq, Repr

/-- How a cause is worded. -/
def DocumentError.message : DocumentError → Text
  | .markup cause => "XML parse error: ".toList ++ cause.message
  | .attributes cause => "XML attribute error: ".toList ++ cause.message
  | .splitCharacter => "a part of the document begins or ends inside a character"

/-- A child that has been begun. -/
structure OpenChild where
  name : Text
  attributes : List (Text × Text)
  /-- the offset of its start tag -/
  start : Nat
  /-- the offset behind its start tag -/
  innerStart : Nat
  /-- the names of the elements open inside it, innermost first -/
  opened : List Text

/-- Where one is in a document. -/
inductive Place
  /-- before the root element -/
  | prolog
  /-- in the root element of the given name -/
  | root (name : Text)
  /-- in a child of the root element of the given name -/
  | child (root : Text) (child : OpenChild)

/-- The part of a document between two offsets. -/
def part (document : Text) (start stop : Nat) : Except DocumentError Text :=
  match Text.slice start stop document with
  | some t => .ok t
  | none => .error .splitCharacter

/-- The attributes of a tag. -/
def attributesOf (tag : Markup.Tag) : Except DocumentError (List (Text × Text)) :=
  tag.attributes.mapError .attributes

/-- A child that ends at an offset. Its inner part ends at the last `</`. -/
def closeChild (document : Text) (child : OpenChild) (stop : Nat) :
    Except DocumentError Element := do
  let tail ← part document child.innerStart stop
  let inner := (Text.beforeLast "</" tail).getD tail
  let outer ← part document child.start stop
  return ⟨child.name, child.attributes, inner, outer⟩

/-- Reads the children of the root element. The tokens begin at the given offset; reading ends at
the end tag of the root element. -/
def elementsFrom (document : Text) : Place → Nat → List Markup.Token →
    Except DocumentError (List Element)
  | .child _ child, _, [] => .error (.markup (.missingEnd child.name))
  | _, _, [] => .ok []
  | place, offset, token :: rest =>
    let next := offset + Text.bytes token.source
    match place, token.kind with
    | _, .fault cause => .error (.markup cause)
    | .prolog, .startTag tag => elementsFrom document (.root tag.name) next rest
    | .prolog, .emptyTag _ => .ok []
    | .prolog, .endTag name => .error (.markup (.unmatchedEnd name))
    | .root root, .startTag tag => do
      let attributes ← attributesOf tag
      elementsFrom document (.child root ⟨tag.name, attributes, offset, next, []⟩) next rest
    | .root root, .emptyTag tag => do
      let attributes ← attributesOf tag
      let outer ← part document offset next
      let others ← elementsFrom document (.root root) next rest
      return ⟨tag.name, attributes, [], outer⟩ :: others
    | .root root, .endTag name =>
      if name = root then .ok [] else .error (.markup (.mismatchedEnd root name))
    | .child root child, .startTag tag =>
      elementsFrom document (.child root { child with opened := tag.name :: child.opened }) next
        rest
    | .child root child, .endTag name =>
      match child.opened with
      | innermost :: outer =>
        if name = innermost then
          elementsFrom document (.child root { child with opened := outer }) next rest
        else .error (.markup (.mismatchedEnd innermost name))
      | [] =>
        if name = child.name then do
          let element ← closeChild document child next
          let others ← elementsFrom document (.root root) next rest
          return element :: others
        else .error (.markup (.mismatchedEnd child.name name))
    | place, _ => elementsFrom document place next rest

/-- The children of the root element, in the order of the document. A mark of the byte order at the
front is skipped and not counted, so that all parts of such a document lie three bytes early. -/
def parse (document : Text) : Except DocumentError (List Element) :=
  let body := if document.head? = some '\ufeff' then document.drop 1 else document
  elementsFrom document .prolog 0 (Markup.Token.ofText body)

/-- The first element of a name. -/
def element (elements : List Element) (name : Text) : Option Element :=
  elements.find? fun element => element.name = name

end Stencil.Page
