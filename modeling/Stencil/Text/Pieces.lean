import Stencil.Text.Basic

namespace Stencil.Text

/-- What stands at the front of a text, if anything does: a value, and the number of characters
that belong to it after the first one. -/
abbrev Matcher (β : Type) := Text → Option (β × Nat)

/-- A part of a text that has been read: a character outside all matches, or a match. -/
inductive Piece (β : Type)
  | char (c : Char)
  | found (value : β)
  deriving DecidableEq, Repr

/-- Reads a text whose first `skip` characters belong to a match already taken. -/
def piecesFrom {β : Type} (m : Matcher β) : Nat → Text → List (Piece β)
  | _, [] => []
  | skip + 1, _ :: r => piecesFrom m skip r
  | 0, c :: r =>
    match m (c :: r) with
    | some (b, more) => .found b :: piecesFrom m more r
    | none => .char c :: piecesFrom m 0 r

/-- The characters and matches of a text, from left to right. A match is taken where it begins, and
reading goes on behind its end; so of two that overlap the one that begins first is taken. -/
def pieces {β : Type} (m : Matcher β) (t : Text) : List (Piece β) :=
  piecesFrom m 0 t

/-- The values of the matches in a text, from left to right. -/
def matchesOf {β : Type} (m : Matcher β) (t : Text) : List β :=
  (pieces m t).filterMap fun
    | .char _ => none
    | .found b => some b

/-- A text with every match replaced by what the matcher says of it. -/
def replaceMatches (m : Matcher Text) (t : Text) : Text :=
  (pieces m t).flatMap fun
    | .char c => [c]
    | .found b => b

/-- Matches a given text that is not empty, with a given value. -/
def literal {β : Type} (lead : Text) (value : β) : Matcher β := fun t =>
  (after? lead t).map fun _ => (value, lead.length - 1)

/-- Matches `lead` and everything behind it up to the next `stop`, with a given value. -/
def enclosed {β : Type} (lead : Text) (stop : Char) (value : β) : Matcher β := fun t =>
  (after? lead t).bind fun rest =>
    (cutFirst stop rest).map fun (body, _) => (value, lead.length + body.length)

/-- A text with every occurrence of `old` replaced by `new`, the occurrences being found from left
to right. The empty text occurs before every character and at the end. -/
def replaceAll (old new t : Text) : Text :=
  if old.isEmpty then new ++ t.flatMap fun c => c :: new
  else replaceMatches (literal old new) t

end Stencil.Text
