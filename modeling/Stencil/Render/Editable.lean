import Stencil.Text.Pieces

namespace Stencil.Render

/-- An `xmleditable` attribute with its quoted value. An authoring tool marks elements with it. -/
def editable : Text.Matcher Text :=
  Text.enclosed "xmleditable=\"" '"' []

/-- A document without its `xmleditable` attributes. -/
def stripEditable (t : Text) : Text :=
  Text.replaceMatches editable t

end Stencil.Render
