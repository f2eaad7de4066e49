import Stencil.Entity.Basic
import Stencil.Proofs.Text.Leftmost

namespace Stencil.Entity

/-- How a character of a payload is written. -/
def encodeChar (c : Char) : Text :=
  if c = '&' then ['&', 'a', 'm', 'p', ';']
  else if c = '}' then ['&', '#', '1', '2', '5', ';']
  else [c]

/-- A text with its ampersands and closing braces written as references. -/
def encode (t : Text) : Text :=
  t.flatMap encodeChar

theorem encode_cons (c : Char) (t : Text) : encode (c :: t) = encodeChar c ++ encode t :=
  List.flatMap_cons

theorem reference_amp (rest : Text) :
    reference (['&', 'a', 'm', 'p', ';'] ++ rest) = some (['&'], 4) := rfl

theorem reference_brace (rest : Text) :
    reference (['&', '#', '1', '2', '5', ';'] ++ rest) = some (['}'], 5) := rfl

/-- A reference begins with an ampersand. -/
theorem reference_cons_of_ne {c : Char} (hne : c ≠ '&') (rest : Text) :
    reference (c :: rest) = none := by
  unfold reference
  split
  · exact absurd (List.cons.inj ‹_›).1 hne
  · rfl

theorem decode_encodeChar_append (c : Char) (rest : Text) :
    decode (encodeChar c ++ rest) = c :: decode rest := by
  unfold encodeChar decode
  split
  · rename_i hamp
    rw [Text.replaceMatches_append_of_match rfl (reference_amp rest), hamp]
    rfl
  · rename_i hamp
    split
    · rename_i hbrace
      rw [Text.replaceMatches_append_of_match rfl (reference_brace rest), hbrace]
      rfl
    · exact Text.replaceMatches_append_of_quiet
        (.cons (reference_cons_of_ne hamp _) (Text.quiet_nil _ _))

/-- What was encoded is decoded to what it was. -/
theorem decode_encode (t : Text) : decode (encode t) = t := by
  induction t with
  | nil => rfl
  | cons c t ih => rw [encode_cons, decode_encodeChar_append, ih]

theorem not_mem_encode (t : Text) : '}' ∉ encode t := by
  intro hmem
  obtain ⟨c, -, hchar⟩ := List.mem_flatMap.mp hmem
  unfold encodeChar at hchar
  split at hchar
  · simp at hchar
  · split at hchar
    · simp at hchar
    · rename_i hbrace
      exact hbrace (List.mem_singleton.mp hchar).symm

end Stencil.Entity
