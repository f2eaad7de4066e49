import Stencil.Text.Basic

namespace Stencil.Text

theorem cutFirst_append {c : Char} {a : Text} (hnot : c ∉ a) (b : Text) :
    cutFirst c (a ++ c :: b) = some (a, b) := by
  induction a with
  | nil => simp [cutFirst]
  | cons d a ih =>
    obtain ⟨hne, hnot⟩ := not_or.mp (mt List.mem_cons.mpr hnot)
    rw [List.cons_append, cutFirst, if_neg (Ne.symm hne), ih hnot]
    rfl

theorem cutFirst_eq_none {c : Char} {t : Text} (hnot : c ∉ t) : cutFirst c t = none := by
  induction t with
  | nil => rfl
  | cons d t ih =>
    obtain ⟨hne, hnot⟩ := not_or.mp (mt List.mem_cons.mpr hnot)
    rw [cutFirst, if_neg (Ne.symm hne), ih hnot]
    rfl

theorem cutFirst_eq_some_iff {c : Char} {t a b : Text} :
    cutFirst c t = some (a, b) ↔ c ∉ a ∧ t = a ++ c :: b := by
  constructor
  · intro hcut
    by_cases hmem : c ∈ t
    · obtain ⟨a', b', rfl, hnot⟩ := List.eq_append_cons_of_mem hmem
      rw [cutFirst_append hnot] at hcut
      cases hcut
      exact ⟨hnot, rfl⟩
    · rw [cutFirst_eq_none hmem] at hcut
      cases hcut
  · rintro ⟨hnot, rfl⟩
    exact cutFirst_append hnot b

/-- Two texts that go on with a character which stands in neither are the same, and so is what
follows. -/
theorem append_cons_inj {c : Char} {a a' b b' : Text} (ha : c ∉ a) (ha' : c ∉ a')
    (heq : a ++ c :: b = a' ++ c :: b') : a = a' ∧ b = b' := by
  have hcut := cutFirst_append ha b
  rw [heq, cutFirst_append ha'] at hcut
  cases hcut
  exact ⟨rfl, rfl⟩

/-- A text that ends in the character is cut at its end. -/
theorem cutLast_append_singleton (c : Char) (a : Text) : cutLast c (a ++ [c]) = some (a, []) := by
  induction a with
  | nil => simp [cutLast]
  | cons d a ih => rw [List.cons_append, cutLast, ih]

end Stencil.Text
