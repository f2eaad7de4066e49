import Stencil.Proofs.Directive.Spans
import Stencil.Proofs.Text.Occurrences

namespace Stencil.Directive

theorem token_ne_nil (payload : Text) : token payload ≠ [] := by simp [token]

/-- Where a token begins within another one, all the rest of that one is the token. -/
theorem eq_token_of_leads {payload payload' behind : Text} (hclosed : '}' ∉ payload)
    (hclosed' : '}' ∉ payload') (hends : behind <:+ token payload') (hbehind : behind ≠ [])
    (hleads : token payload <+: behind ∨ behind <+: token payload) : behind = token payload := by
  obtain ⟨before, hsplit⟩ := hends
  have hinside : before.length < (token payload').length := by
    have hlength := List.length_pos_iff.mpr hbehind
    rw [← hsplit, List.length_append]
    omega
  have hdrop : ∀ rest, (token payload' ++ rest).drop before.length = behind ++ rest := by
    intro rest
    rw [← hsplit, List.append_assoc, List.drop_left]
  have hfound : ∃ rest, token payload <+: (token payload' ++ rest).drop before.length := by
    rcases hleads with hshorter | ⟨rest, hrest⟩
    · exact ⟨[], by rwa [hdrop, List.append_nil]⟩
    · exact ⟨rest, by rw [hdrop, hrest]⟩
  obtain ⟨rest, hfound⟩ := hfound
  rw [← drop_token_eq_of_leads hclosed' hclosed hinside hfound, ← hsplit, List.drop_left]

/-- A token that begins within another one is the end of it. -/
theorem suffix_of_beginsIn {payload payload' : Text} (hclosed : '}' ∉ payload)
    (hclosed' : '}' ∉ payload') (hbegins : Text.BeginsIn (token payload) (token payload')) :
    token payload <:+ token payload' := by
  obtain ⟨behind, hmem, hbehind, hleads⟩ := hbegins
  have hends : behind <:+ token payload' := (List.mem_tails _ _).mp hmem
  rw [← eq_token_of_leads hclosed hclosed' hends hbehind hleads]
  exact hends

theorem not_beginsIn_behind_token {payload : Text} (hclosed : '}' ∉ payload) :
    ¬ Text.BeginsIn (token payload) ('{' :: payload ++ ['}', '}']) := by
  rintro ⟨behind, hmem, hbehind, hleads⟩
  have hends : behind <:+ '{' :: payload ++ ['}', '}'] := (List.mem_tails _ _).mp hmem
  have heq := eq_token_of_leads hclosed hclosed (hends.trans (List.suffix_cons '{' _)) hbehind
    hleads
  have hlength := hends.length_le
  rw [heq, length_token, List.length_append, List.length_cons] at hlength
  simp only [List.length_cons, List.length_nil] at hlength
  omega

theorem not_beginsIn_token {payload payload' : Text} (hclosed : '}' ∉ payload)
    (hopened' : '{' ∉ payload') (hclosed' : '}' ∉ payload') (hne : payload ≠ payload') :
    ¬ Text.BeginsIn (token payload) (token payload') := by
  intro hbegins
  have hsuffix : token payload <:+ '{' :: '{' :: (payload' ++ ['}', '}']) :=
    suffix_of_beginsIn hclosed hclosed' hbegins
  rcases List.suffix_cons_iff.mp hsuffix with heq | hshorter
  · exact hne (token_injective heq)
  · -- the braces in front of a payload are only two
    have hbraces : ['{', '{'] <:+: '{' :: (payload' ++ ['}', '}']) :=
      (show ['{', '{'] <+: token payload from ⟨payload ++ ['}', '}'], rfl⟩).isInfix.trans
        hshorter.isInfix
    rw [List.infix_cons_iff, List.cons_prefix_cons] at hbraces
    have hmem : '{' ∈ payload' ++ ['}', '}'] := by
      rcases hbraces with ⟨-, hfirst⟩ | hlater
      · exact hfirst.subset (List.mem_singleton_self _)
      · exact hlater.subset List.mem_cons_self
    simp [hopened'] at hmem

/-- A token stands in a text at least as often as it is matched there. -/
theorem count_payloads_le_occurrences (payload t : Text) :
    (payloads t).count payload ≤ Text.occurrences (token payload) t := by
  rw [← marks_layout]
  induction t using token_induction with
  | nil => exact Nat.zero_le _
  | char c r hnone ih =>
    rw [layout_cons_of_none hnone, Text.occurrences_cons]
    exact Nat.le_add_right_of_le ih
  | token payload' rest hclosed ih =>
    rw [layout_token_append hclosed]
    have hsum := Text.occurrences_add_le (token_ne_nil payload) (token payload') rest
    change ((payload' :: (layout rest).marks).count payload) ≤ _
    rw [List.count_cons]
    by_cases heq : payload' = payload
    · have hself := Text.occurrences_pos (token_ne_nil payload) (List.infix_refl (token payload))
      rw [heq] at hsum ⊢
      simp only [beq_self_eq_true, if_true]
      omega
    · simp only [beq_iff_eq, heq, if_false]
      omega

end Stencil.Directive
