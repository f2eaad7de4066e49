import Stencil.Text.Pieces

namespace Stencil.Markup

/-- A tag at the front of a text: a `<` and everything up to the next `>`, well formed or not. -/
def tag : Text.Matcher Text :=
  Text.enclosed ['<'] '>' []

/-- Markup without its tags. -/
def stripTags (t : Text) : Text :=
  Text.replaceMatches tag t

end Stencil.Markup
