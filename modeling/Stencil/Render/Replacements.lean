import Stencil.Text.Pieces

namespace Stencil

/-- Texts to be replaced, each with the text that takes its place, in the order of the sweeps. -/
abbrev Replacements := List (Text × Text)

namespace Replacements

/-- The text after all sweeps. Each goes through the whole text as the ones before it left it, and
what it puts in is taken literally. -/
def apply (items : Replacements) (t : Text) : Text :=
  items.foldl (fun t (old, new) => Text.replaceAll old new t) t

end Replacements

end Stencil
