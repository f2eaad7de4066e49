import Stencil.Text.Pieces

namespace Stencil.Text

variable {β : Type} {m : Matcher β}

/-- Characters that belong to a match already taken are passed over. -/
theorem piecesFrom_eq_pieces_drop (skip : Nat) (t : Text) :
    piecesFrom m skip t = pieces m (t.drop skip) := by
  induction skip generalizing t with
  | zero => rfl
  | succ skip ih =>
    cases t with
    | nil => rfl
    | cons c r => exact ih r

@[simp] theorem pieces_nil : pieces m [] = [] := rfl

theorem pieces_cons_of_none {c : Char} {r : Text} (hnone : m (c :: r) = none) :
    pieces m (c :: r) = .char c :: pieces m r := by
  simp only [pieces, piecesFrom, hnone]

theorem pieces_cons_of_some {c : Char} {r : Text} {b : β} {more : Nat}
    (hsome : m (c :: r) = some (b, more)) :
    pieces m (c :: r) = .found b :: pieces m (r.drop more) := by
  rw [← piecesFrom_eq_pieces_drop]
  simp only [pieces, piecesFrom, hsome]

/-- A text is read either one character at a time or one match at a time. -/
theorem pieces_induction (m : Matcher β) {P : Text → Prop} (nil : P [])
    (char : ∀ c r, m (c :: r) = none → P r → P (c :: r))
    (found : ∀ c r b more, m (c :: r) = some (b, more) → P (r.drop more) → P (c :: r)) :
    ∀ t, P t := by
  intro t
  induction hlength : t.length using Nat.strongRecOn generalizing t with
  | _ length ih =>
    cases t with
    | nil => exact nil
    | cons c r =>
      have hshorter : ∀ s : Text, s.length ≤ r.length → P s := by
        intro s hs
        refine ih s.length ?_ s rfl
        rw [← hlength, List.length_cons]
        omega
      cases hmatch : m (c :: r) with
      | none => exact char c r hmatch (hshorter r (Nat.le_refl _))
      | some found' =>
        obtain ⟨b, more⟩ := found'
        refine found c r b more hmatch (hshorter _ ?_)
        rw [List.length_drop]
        omega

/-- No match begins within `s` when `rest` stands behind it. -/
def Quiet (m : Matcher β) (s rest : Text) : Prop :=
  ∀ a b, s = a ++ b → b ≠ [] → m (b ++ rest) = none

theorem Quiet.tail {c : Char} {s rest : Text} (hquiet : Quiet m (c :: s) rest) :
    Quiet m s rest := by
  intro a b hsplit
  exact hquiet (c :: a) b (by rw [hsplit, List.cons_append])

theorem quiet_nil (m : Matcher β) (rest : Text) : Quiet m [] rest := by
  intro before behind hsplit hbehind
  exact absurd (List.append_eq_nil_iff.mp hsplit.symm).2 hbehind

theorem Quiet.cons {c : Char} {s rest : Text} (hnone : m (c :: (s ++ rest)) = none)
    (hquiet : Quiet m s rest) : Quiet m (c :: s) rest := by
  intro before behind hsplit hbehind
  cases before with
  | nil =>
    rw [← (show c :: s = behind from hsplit)]
    exact hnone
  | cons d before => exact hquiet before behind (List.cons.inj hsplit).2 hbehind

/-- Text in which no match begins is read character by character. -/
theorem pieces_append_of_quiet {s rest : Text} (hquiet : Quiet m s rest) :
    pieces m (s ++ rest) = s.map .char ++ pieces m rest := by
  induction s with
  | nil => rfl
  | cons c s ih =>
    have hnone : m (c :: (s ++ rest)) = none := hquiet [] (c :: s) rfl (by simp)
    rw [List.cons_append, pieces_cons_of_none hnone, ih hquiet.tail]
    rfl

theorem matchesOf_append_of_quiet {s rest : Text} (hquiet : Quiet m s rest) :
    matchesOf m (s ++ rest) = matchesOf m rest := by
  rw [matchesOf, pieces_append_of_quiet hquiet, List.filterMap_append, List.filterMap_map]
  simp [matchesOf]

theorem replaceMatches_append_of_quiet {m : Matcher Text} {s rest : Text}
    (hquiet : Quiet m s rest) :
    replaceMatches m (s ++ rest) = s ++ replaceMatches m rest := by
  rw [replaceMatches, pieces_append_of_quiet hquiet, List.flatMap_append, List.flatMap_map]
  simp [replaceMatches]

/-- A match at the front of a text is taken, and reading goes on behind it. -/
theorem pieces_append_of_match {s rest : Text} {b : β} {more : Nat} (hlength : s.length = more + 1)
    (hmatch : m (s ++ rest) = some (b, more)) :
    pieces m (s ++ rest) = .found b :: pieces m rest := by
  cases s with
  | nil => simp at hlength
  | cons c s =>
    have hmore : s.length = more := by simpa using hlength
    rw [List.cons_append] at hmatch ⊢
    rw [pieces_cons_of_some hmatch, ← hmore, List.drop_left]

theorem matchesOf_append_of_match {s rest : Text} {b : β} {more : Nat}
    (hlength : s.length = more + 1) (hmatch : m (s ++ rest) = some (b, more)) :
    matchesOf m (s ++ rest) = b :: matchesOf m rest := by
  simp only [matchesOf, pieces_append_of_match hlength hmatch, List.filterMap_cons]

theorem replaceMatches_append_of_match {m : Matcher Text} {s rest b : Text} {more : Nat}
    (hlength : s.length = more + 1) (hmatch : m (s ++ rest) = some (b, more)) :
    replaceMatches m (s ++ rest) = b ++ replaceMatches m rest := by
  simp only [replaceMatches, pieces_append_of_match hlength hmatch, List.flatMap_cons]

/-- Texts are cut behind a literal lead exactly when they begin with it. -/
theorem after?_eq_some_iff {lead t rest : Text} : after? lead t = some rest ↔ t = lead ++ rest := by
  induction lead generalizing t with
  | nil => simp [after?, eq_comm]
  | cons c lead ih =>
    cases t with
    | nil => simp [after?]
    | cons d t =>
      by_cases hcd : c = d
      · simp [after?, hcd, ih]
      · simp [after?, hcd, Ne.symm hcd]

theorem literal_append {lead : Text} (value : β) (rest : Text) :
    literal lead value (lead ++ rest) = some (value, lead.length - 1) := by
  rw [literal, after?_eq_some_iff.mpr rfl, Option.map_some]

theorem literal_eq_none_iff {lead t : Text} {value : β} :
    literal lead value t = none ↔ ¬ lead <+: t := by
  rw [literal, Option.map_eq_none_iff, Option.eq_none_iff_forall_ne_some]
  constructor
  · rintro hnone ⟨rest, hrest⟩
    exact hnone rest (after?_eq_some_iff.mpr hrest.symm)
  · intro hnot rest hrest
    exact hnot ⟨rest, (after?_eq_some_iff.mp hrest).symm⟩

theorem replaceAll_eq_replaceMatches {old : Text} (hold : old ≠ []) (new t : Text) :
    replaceAll old new t = replaceMatches (literal old new) t := by
  have hempty : old.isEmpty = false := by simpa using hold
  rw [replaceAll, hempty, if_neg Bool.false_ne_true]

end Stencil.Text
