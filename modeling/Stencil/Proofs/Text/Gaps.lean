import Stencil.Proofs.Directive.Layout
import Stencil.Proofs.Text.Cut

namespace Stencil.Text

variable {β : Type} {m : Matcher β}

/-- The texts between the matches, one more than there are matches. -/
def gaps (m : Matcher β) (t : Text) : List Text :=
  (Layout.ofPieces (pieces m t)).gaps

/-- A text that is put together from the ends of two rows of gaps that lie side by side. -/
def AcrossSeam (gaps : List Text) (part : Text) : Prop :=
  ∃ before behind front back, gaps = before ++ behind ∧ part = front ++ back ∧
    front ≠ [] ∧ back ≠ [] ∧ front <:+ before.flatten ∧ back <+: behind.flatten

theorem AcrossSeam.cons {gaps : List Text} {part : Text} (hacross : AcrossSeam gaps part)
    (gap : Text) : AcrossSeam (gap :: gaps) part := by
  obtain ⟨before, behind, front, back, rfl, hpart, hfront, hback, hends, hleads⟩ := hacross
  refine ⟨gap :: before, behind, front, back, rfl, hpart, hfront, hback, ?_, hleads⟩
  exact hends.trans (List.suffix_append gap before.flatten)

theorem infix_flatten_iff {part : Text} (hpart : part ≠ []) (gaps : List Text) :
    part <:+: gaps.flatten ↔ (∃ gap ∈ gaps, part <:+: gap) ∨ AcrossSeam gaps part := by
  constructor
  · intro hwithin
    induction gaps with
    | nil => exact absurd (List.infix_nil.mp hwithin) hpart
    | cons gap gaps ih =>
      rw [List.flatten_cons, List.infix_append_iff] at hwithin
      rcases hwithin with hgap | hlater | ⟨front, back, rfl, hends, hleads⟩
      · exact .inl ⟨gap, List.mem_cons_self, hgap⟩
      · rcases ih hlater with ⟨gap', hmem, hgap'⟩ | hacross
        · exact .inl ⟨gap', List.mem_cons_of_mem _ hmem, hgap'⟩
        · exact .inr (hacross.cons gap)
      · by_cases hfront : front = []
        · subst hfront
          rcases ih hleads.isInfix with ⟨gap', hmem, hgap'⟩ | hacross
          · exact .inl ⟨gap', List.mem_cons_of_mem _ hmem, hgap'⟩
          · exact .inr (hacross.cons gap)
        by_cases hback : back = []
        · subst hback
          rw [List.append_nil]
          exact .inl ⟨gap, List.mem_cons_self, hends.isInfix⟩
        · refine .inr ⟨[gap], gaps, front, back, rfl, rfl, hfront, hback, ?_, hleads⟩
          simpa using hends
  · rintro (⟨gap, hmem, hgap⟩ | ⟨before, behind, front, back, rfl, rfl, -, -, hends, hleads⟩)
    · exact hgap.trans (List.infix_of_mem_flatten hmem)
    · obtain ⟨lead, hlead⟩ := hends
      obtain ⟨rest, hrest⟩ := hleads
      refine ⟨lead, rest, ?_⟩
      rw [List.flatten_append, ← hlead, ← hrest]
      simp only [List.append_assoc]

theorem gaps_cons_of_none {c : Char} {r : Text} (hnone : m (c :: r) = none) :
    gaps m (c :: r) = (c :: (Layout.ofPieces (pieces m r)).lead) :: (gaps m r).tail := by
  rw [gaps, pieces_cons_of_none hnone]
  rfl

theorem gaps_cons_of_some {c : Char} {r : Text} {b : β} {more : Nat}
    (hsome : m (c :: r) = some (b, more)) : gaps m (c :: r) = [] :: gaps m (r.drop more) := by
  rw [gaps, pieces_cons_of_some hsome]
  rfl

/-- The text in front of the first match. -/
theorem exists_lead_quiet (m : Matcher β) (t : Text) :
    ∃ rest, t = (Layout.ofPieces (pieces m t)).lead ++ rest ∧
      Quiet m (Layout.ofPieces (pieces m t)).lead rest := by
  induction t using pieces_induction m with
  | nil => exact ⟨[], rfl, quiet_nil m []⟩
  | char c r hnone ih =>
    obtain ⟨rest, hsplit, hquiet⟩ := ih
    rw [pieces_cons_of_none hnone, Layout.ofPieces]
    refine ⟨rest, congrArg (c :: ·) hsplit, .cons ?_ hquiet⟩
    rw [← hsplit]
    exact hnone
  | found c r b more hsome ih =>
    rw [pieces_cons_of_some hsome, Layout.ofPieces]
    exact ⟨c :: r, rfl, quiet_nil m _⟩

/-- A gap stands in the text, and no match begins in it. -/
theorem exists_quiet_of_mem_gaps {t gap : Text} (hgap : gap ∈ gaps m t) :
    ∃ rest, gap ++ rest <:+ t ∧ Quiet m gap rest := by
  induction t using pieces_induction m with
  | nil =>
    rw [List.mem_singleton.mp (show gap ∈ [[]] from hgap)]
    exact ⟨[], List.suffix_refl _, quiet_nil m []⟩
  | char c r hnone ih =>
    rw [gaps_cons_of_none hnone, List.mem_cons] at hgap
    rcases hgap with rfl | hlater
    · obtain ⟨rest, hsplit, hquiet⟩ := exists_lead_quiet m (c :: r)
      rw [pieces_cons_of_none hnone, Layout.ofPieces] at hsplit hquiet
      exact ⟨rest, hsplit ▸ List.suffix_refl _, hquiet⟩
    · obtain ⟨rest, hends, hquiet⟩ := ih (List.mem_of_mem_tail hlater)
      exact ⟨rest, hends.trans (List.suffix_cons c r), hquiet⟩
  | found c r b more hsome ih =>
    rw [gaps_cons_of_some hsome, List.mem_cons] at hgap
    rcases hgap with rfl | hlater
    · exact ⟨[], List.nil_suffix, quiet_nil m []⟩
    · obtain ⟨rest, hends, hquiet⟩ := ih hlater
      exact ⟨rest, hends.trans ((List.drop_suffix more r).trans (List.suffix_cons c r)), hquiet⟩

theorem infix_of_mem_gaps {t gap : Text} (hgap : gap ∈ gaps m t) : gap <:+: t := by
  obtain ⟨rest, hends, -⟩ := exists_quiet_of_mem_gaps hgap
  exact (List.prefix_append gap rest).isInfix.trans hends.isInfix

/-- Where every match is replaced by nothing, the gaps are left. -/
theorem replaceMatches_eq_flatten_gaps {m : Matcher Text}
    (hnothing : ∀ s b more, m s = some (b, more) → b = []) (t : Text) :
    replaceMatches m t = (gaps m t).flatten := by
  induction t using pieces_induction m with
  | nil => rfl
  | char c r hnone ih =>
    rw [gaps_cons_of_none hnone, replaceMatches, pieces_cons_of_none hnone, List.flatMap_cons,
      ← replaceMatches, ih]
    rfl
  | found c r b more hsome ih =>
    rw [gaps_cons_of_some hsome, replaceMatches, pieces_cons_of_some hsome, List.flatMap_cons,
      ← replaceMatches, ih, hnothing _ _ _ hsome]
    rfl

/-- Without matches a text stays as it is. -/
theorem replaceMatches_of_quiet {m : Matcher Text} {t : Text} (hquiet : Quiet m t []) :
    replaceMatches m t = t := by
  simpa [replaceMatches] using replaceMatches_append_of_quiet hquiet

theorem matchesOf_eq_nil_iff {t : Text} : matchesOf m t = [] ↔ Quiet m t [] := by
  constructor
  · intro hnil
    induction t using pieces_induction m with
    | nil => exact quiet_nil m []
    | char c r hnone ih =>
      rw [matchesOf, pieces_cons_of_none hnone, List.filterMap_cons] at hnil
      exact .cons (by rwa [List.append_nil]) (ih hnil)
    | found c r b more hsome ih =>
      rw [matchesOf, pieces_cons_of_some hsome, List.filterMap_cons] at hnil
      cases hnil
  · intro hquiet
    simpa [matchesOf] using matchesOf_append_of_quiet hquiet

theorem enclosed_eq_some_iff {lead t : Text} {stop : Char} {value b : β} {more : Nat} :
    enclosed lead stop value t = some (b, more) ↔
      ∃ body rest, stop ∉ body ∧ t = lead ++ (body ++ stop :: rest) ∧ b = value ∧
        more = lead.length + body.length := by
  simp only [enclosed, Option.bind_eq_some_iff, Option.map_eq_some_iff, Prod.exists,
    cutFirst_eq_some_iff, after?_eq_some_iff, Prod.mk.injEq]
  constructor
  · rintro ⟨_, rfl, body, rest, ⟨hnot, rfl⟩, rfl, rfl⟩
    exact ⟨body, rest, hnot, rfl, rfl, rfl⟩
  · rintro ⟨body, rest, hnot, rfl, rfl, rfl⟩
    exact ⟨_, rfl, body, rest, ⟨hnot, rfl⟩, rfl, rfl⟩

end Stencil.Text
