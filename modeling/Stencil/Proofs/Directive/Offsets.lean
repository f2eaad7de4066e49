import Stencil.Proofs.Directive.Entries
import Stencil.Proofs.Text.Parts

namespace Stencil.ParamSet

/-- The offsets in bytes between which the entries of a list stand. The present entry begins at
`start`, the rest of the list at `offset`, and `last` is the character in front of the rest. The
entry behind a comma begins one byte after it. -/
def rangesFrom (start offset : Nat) (last : Option Char) : Text → List (Nat × Nat)
  | [] => [(start, offset)]
  | c :: rest =>
    if c = ',' ∧ last ≠ some '\\' then
      (start, offset) :: rangesFrom (offset + 1) (offset + c.utf8Size) (some c) rest
    else rangesFrom start (offset + c.utf8Size) (some c) rest

/-- The offsets of all entries of a list. -/
def ranges (list : Text) : List (Nat × Nat) :=
  rangesFrom 0 0 none list

/-- Whether an entry stands in a list between two offsets in bytes. Each of them lies between two
characters, or at an end of the list. -/
def StandsAt (list : Text) (range : Nat × Nat) (entry : Text) : Prop :=
  ∃ front back, list = front ++ entry ++ back ∧
    range = (Text.bytes front, Text.bytes (front ++ entry))

theorem splitFrom_ne_nil (escaped : Bool) (t : Text) : splitFrom escaped t ≠ [] := by
  cases t with
  | nil => exact List.cons_ne_nil _ _
  | cons c t =>
    rw [splitFrom]
    split
    · exact List.cons_ne_nil _ _
    · split <;> exact List.cons_ne_nil _ _

/-- A character that does not divide belongs to the entry that goes on behind it. -/
theorem splitFrom_cons_of_not {escaped : Bool} {c : Char} (hnot : ¬ (c = ',' ∧ escaped = false))
    (t : Text) :
    splitFrom escaped (c :: t) = (splitFrom (c == '\\') t).modifyHead ([c] ++ ·) := by
  rw [splitFrom, if_neg hnot]
  cases hrest : splitFrom (c == '\\') t with
  | nil => exact absurd hrest (splitFrom_ne_nil _ t)
  | cons piece pieces => rfl

theorem modifyHead_nil_append (pieces : List Text) : pieces.modifyHead ([] ++ ·) = pieces :=
  congrFun List.modifyHead_id pieces

theorem bytes_append_singleton (t : Text) (c : Char) :
    Text.bytes (t ++ [c]) = Text.bytes t + c.utf8Size := by
  rw [Text.bytes_append, Text.bytes, Text.bytes, Nat.add_zero]

/-- The pass when it has come to `rest`. It has cut off `front`, and `current` is what it has of the
present entry. -/
theorem standsAt_rangesFrom {last : Option Char} {escaped : Bool}
    (hlast : escaped = true ↔ last = some '\\') (front current rest : Text) :
    List.Forall₂ (StandsAt (front ++ current ++ rest))
      (rangesFrom (Text.bytes front) (Text.bytes (front ++ current)) last rest)
      ((splitFrom escaped rest).modifyHead (current ++ ·)) := by
  induction rest generalizing front current last escaped with
  | nil =>
    rw [splitFrom, List.modifyHead_cons, List.append_nil current]
    exact .cons ⟨front, [], rfl, rfl⟩ .nil
  | cons c rest ih =>
    have hlist : front ++ current ++ c :: rest = front ++ current ++ [c] ++ rest := by simp
    rw [rangesFrom]
    split
    · next hdivides =>
      obtain ⟨rfl, hplain⟩ := hdivides
      have hescaped : escaped = false := by simpa using mt hlast.mp hplain
      have hcomma : Text.bytes (front ++ current ++ [',']) = Text.bytes (front ++ current) + 1 :=
        bytes_append_singleton _ _
      have hrest := @ih (some ',') false (by simp) (front ++ current ++ [',']) []
      rw [List.append_nil, hcomma, ← hlist, modifyHead_nil_append] at hrest
      rw [splitFrom, if_pos ⟨rfl, hescaped⟩, List.modifyHead_cons, List.append_nil]
      exact .cons ⟨front, ',' :: rest, rfl, rfl⟩ hrest
    · next hdivides =>
      have hnot : ¬ (c = ',' ∧ escaped = false) := by
        rintro ⟨hc, hescaped⟩
        exact hdivides ⟨hc, mt hlast.mpr (by simp [hescaped])⟩
      have hrest := @ih (some c) (c == '\\') (by simp) front (current ++ [c])
      rw [← List.append_assoc front, bytes_append_singleton, ← hlist] at hrest
      rw [splitFrom_cons_of_not hnot, List.modifyHead_modifyHead]
      simpa only [Function.comp_def, List.append_assoc] using hrest

/-- The pass finds all entries, and never cuts within a character. -/
theorem standsAt_ranges (list : Text) :
    List.Forall₂ (StandsAt list) (ranges list) (split list) := by
  have hpass := @standsAt_rangesFrom none false (by simp) [] [] list
  rwa [modifyHead_nil_append] at hpass

/-- The entries of a list are the only way to cut it at commas so that every comma that is left in
an entry has a backslash of the entry in front of it, and none of those cut at has. They stand
between the offsets that one pass over the bytes of the list finds, and each of these offsets lies
between two characters. -/
theorem split_is_only_cut (list : Text) :
    (∀ entries, Cuts list entries ↔ entries = split list) ∧
      List.Forall₂ (StandsAt list) (ranges list) (split list) :=
  ⟨fun _ => cuts_iff_eq_split, standsAt_ranges list⟩

/-- Offsets count bytes, of which the first and the last character here have more than one. -/
example : ranges ['é', ',', '\\', ',', ',', '日'] = [(0, 2), (3, 5), (6, 9)] := by decide

end Stencil.ParamSet
