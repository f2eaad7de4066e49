import Stencil.Markup.SelfClosed
import Stencil.Proofs.Markup.Written

namespace Stencil.Markup

/-- A text between angle brackets. -/
def bracketed (body : Text) : Text :=
  '<' :: (body ++ ['>'])

/-- An attribute with the white space in front of it. -/
structure Assignment where
  lead : Blank
  lead_ne_nil : lead.text ≠ []
  key : Name
  /-- what stands in front of the `=` -/
  before : Blank
  /-- what stands behind the `=` -/
  behind : Blank
  quote : Quote
  value : Text
  plain : ∀ c ∈ value, c ≠ '<' ∧ c ≠ '>' ∧ c ≠ quote.char

def Assignment.write (item : Assignment) : Text :=
  item.lead.text ++ (item.key.text ++ (item.before.text ++ ['='] ++ (item.behind.text ++
    (item.quote.char :: item.value ++ [item.quote.char]))))

/-- What the tag of an element says of it. -/
structure Opening where
  name : Name
  attributes : List Assignment
  distinct : (attributes.map fun item => item.key.text).Nodup
  /-- the white space behind all attributes -/
  space : Blank

namespace Opening

/-- What stands behind the name, without the white space at the end. -/
def assignments (opening : Opening) : Text :=
  opening.attributes.flatMap Assignment.write

def write (opening : Opening) : Text :=
  opening.name.text ++ (opening.assignments ++ opening.space.text)

def startTag (opening : Opening) : Text :=
  bracketed opening.write

def emptyTag (opening : Opening) : Text :=
  bracketed (opening.write ++ ['/'])

/-- The end tag of an element, with white space behind the name. -/
def endTag (opening : Opening) (space : Blank) : Text :=
  bracketed ('/' :: (opening.name.text ++ space.text))

/-- The attributes with their values as they are written. -/
def pairs (opening : Opening) : List (Text × Text) :=
  opening.attributes.map fun item => (item.key.text, item.value)

/-- The same without the white space at the end. -/
def trimmed (opening : Opening) : Opening :=
  { opening with space := .none }

end Opening

/-- Markup made of text, elements and self-closed elements. -/
inductive Fragment
  | nil
  | text (t : Text) (plain : ∀ c ∈ t, c ≠ '<' ∧ c ≠ '>' ∧ c ≠ '&') (rest : Fragment)
  /-- a self-closed element -/
  | empty (opening : Opening) (rest : Fragment)
  /-- an element with the white space in its end tag -/
  | element (opening : Opening) (inner : Fragment) (space : Blank) (rest : Fragment)

/-- A part of a tree: a character of text, or an element with its name, its attributes and what it
holds. -/
inductive Node
  | char (c : Char)
  | element (name : Text) (attributes : List (Text × Text)) (inner : List Node)

namespace Fragment

def write : Fragment → Text
  | nil => []
  | text t _ rest => t ++ rest.write
  | empty opening rest => opening.emptyTag ++ rest.write
  | element opening inner space rest =>
    opening.startTag ++ (inner.write ++ opening.endTag space) ++ rest.write

/-- The tree of a fragment. A self-closed element holds nothing. -/
def tree : Fragment → List Node
  | nil => []
  | text t _ rest => t.map .char ++ rest.tree
  | empty opening rest => .element opening.name.text opening.pairs [] :: rest.tree
  | element opening inner _ rest =>
    .element opening.name.text opening.pairs inner.tree :: rest.tree

/-- The fragment in which the self-closed elements have both tags if their name, as a whole, is one
of `neverEmpty`. White space in front of their slash is left out, and all else stays. -/
def expanded : Fragment → Fragment
  | nil => nil
  | text t plain rest => text t plain rest.expanded
  | empty opening rest =>
    if neverEmpty.contains opening.name.text then element opening.trimmed nil .none rest.expanded
    else empty opening rest.expanded
  | element opening inner space rest => element opening inner.expanded space rest.expanded

/-- The tags of the self-closed elements of a fragment, at any depth. -/
def emptyTags : Fragment → List Opening
  | nil => []
  | text _ _ rest => rest.emptyTags
  | empty opening rest => opening :: rest.emptyTags
  | element _ inner _ rest => inner.emptyTags ++ rest.emptyTags

/-- A fragment with both tags means the same. -/
theorem tree_expanded (fragment : Fragment) : fragment.expanded.tree = fragment.tree := by
  induction fragment with
  | nil => rfl
  | text t plain rest ih => rw [expanded, tree, tree, ih]
  | empty opening rest ih =>
    rw [expanded]
    split
    · rw [tree, tree, tree, ih]
      rfl
    · rw [tree, tree, ih]
  | element opening inner space rest ihInner ih => rw [expanded, tree, tree, ihInner, ih]

end Fragment

end Stencil.Markup
