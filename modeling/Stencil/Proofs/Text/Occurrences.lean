import Mathlib.Data.List.Infix
import Stencil.Proofs.Text.Leftmost

namespace Stencil.Text

/-- Whether `part` begins somewhere in a text, be it that it goes on behind its end. -/
def BeginsIn (part t : Text) : Prop :=
  ∃ behind ∈ t.tails, behind ≠ [] ∧ (part <+: behind ∨ behind <+: part)

instance (part t : Text) : Decidable (BeginsIn part t) :=
  inferInstanceAs (Decidable (∃ behind ∈ t.tails, _))

theorem beginsIn_of_leads {part before behind rest : Text} (hbehind : behind ≠ [])
    (hleads : part <+: behind ++ rest) : BeginsIn part (before ++ behind) := by
  refine ⟨behind, (List.mem_tails _ _).mpr (List.suffix_append before behind), hbehind, ?_⟩
  exact List.prefix_or_prefix_of_prefix hleads (List.prefix_append behind rest)

theorem quiet_of_not_beginsIn {β : Type} {part t : Text} (hnot : ¬ BeginsIn part t) (value : β)
    (rest : Text) : Quiet (literal part value) t rest := by
  rintro before behind rfl hbehind
  rw [literal_eq_none_iff]
  exact fun hleads => hnot (beginsIn_of_leads hbehind hleads)

theorem replaceAll_append_of_not_beginsIn {old t : Text} (hold : old ≠ [])
    (hnot : ¬ BeginsIn old t) (new rest : Text) :
    replaceAll old new (t ++ rest) = t ++ replaceAll old new rest := by
  rw [replaceAll_eq_replaceMatches hold, replaceAll_eq_replaceMatches hold]
  exact replaceMatches_append_of_quiet (quiet_of_not_beginsIn hnot new rest)

theorem replaceAll_append_self {old : Text} (hold : old ≠ []) (new rest : Text) :
    replaceAll old new (old ++ rest) = new ++ replaceAll old new rest := by
  rw [replaceAll_eq_replaceMatches hold, replaceAll_eq_replaceMatches hold]
  refine replaceMatches_append_of_match ?_ (literal_append new rest)
  have hlength := List.length_pos_iff.mpr hold
  omega

theorem replaceAll_cons_of_not_leads {old : Text} (hold : old ≠ []) {c : Char} {r : Text}
    (hnot : ¬ old <+: c :: r) (new : Text) :
    replaceAll old new (c :: r) = c :: replaceAll old new r := by
  rw [replaceAll_eq_replaceMatches hold, replaceAll_eq_replaceMatches hold, replaceMatches,
    pieces_cons_of_none (literal_eq_none_iff.mpr hnot), List.flatMap_cons]
  rfl

/-- A sweep goes through a text from left to right, over the characters where the old text does not
begin, and from each of its places to the text behind it. -/
theorem sweep_induction {old : Text} (hold : old ≠ []) {P : Text → Prop} (nil : P [])
    (char : ∀ c r, ¬ old <+: c :: r → P r → P (c :: r))
    (found : ∀ rest, P rest → P (old ++ rest)) : ∀ t, P t := by
  apply pieces_induction (literal old ()) nil
  · exact fun c r hnone => char c r (literal_eq_none_iff.mp hnone)
  · intro c r _ more hfound hrest
    rw [literal, Option.map_eq_some_iff] at hfound
    obtain ⟨rest, hafter, hmore⟩ := hfound
    have hsplit : c :: r = old ++ rest := after?_eq_some_iff.mp hafter
    have hdrop : r.drop more = rest := by
      have hlength := List.length_pos_iff.mpr hold
      have hmore : more + 1 = old.length := by
        rw [← (Prod.mk.inj hmore).2]
        omega
      rw [← List.drop_succ_cons (a := c), hmore, hsplit, List.drop_left]
    rw [hsplit]
    exact found rest (hdrop ▸ hrest)

theorem replaceAll_eq_self {old t : Text} (hold : old ≠ []) (hnot : ¬ old <:+: t) (new : Text) :
    replaceAll old new t = t := by
  induction t using sweep_induction hold with
  | nil => rw [replaceAll_eq_replaceMatches hold]; rfl
  | char c r hleads ih =>
    rw [replaceAll_cons_of_not_leads hold hleads,
      ih fun hlater => hnot (hlater.trans (List.suffix_cons c r).isInfix)]
  | found rest ih => exact absurd (List.prefix_append old rest).isInfix hnot

/-- The number of places at which a text stands in another one. -/
def occurrences (part t : Text) : Nat :=
  t.tails.countP part.isPrefixOf

theorem occurrences_cons (part : Text) (c : Char) (r : Text) :
    occurrences part (c :: r) = occurrences part r + if part <+: c :: r then 1 else 0 := by
  rw [occurrences, List.tails_cons, List.countP_cons, ← occurrences]
  simp only [List.isPrefixOf_iff_prefix]

theorem occurrences_nil {part : Text} (hpart : part ≠ []) : occurrences part [] = 0 := by
  obtain ⟨c, part, rfl⟩ := List.exists_cons_of_ne_nil hpart
  rfl

theorem occurrences_cons_of_not_leads {part : Text} {c : Char} {r : Text}
    (hnot : ¬ part <+: c :: r) : occurrences part (c :: r) = occurrences part r := by
  rw [occurrences_cons, if_neg hnot, Nat.add_zero]

/-- Texts put together hold at least what each of them holds. -/
theorem occurrences_add_le {part : Text} (hpart : part ≠ []) (a b : Text) :
    occurrences part a + occurrences part b ≤ occurrences part (a ++ b) := by
  induction a with
  | nil => rw [occurrences_nil hpart, Nat.zero_add, List.nil_append]
  | cons c a ih =>
    rw [List.cons_append, occurrences_cons, occurrences_cons]
    by_cases hleads : part <+: c :: a
    · have hlonger : part <+: c :: (a ++ b) := hleads.trans (List.prefix_append (c :: a) b)
      rw [if_pos hleads, if_pos hlonger]
      omega
    · rw [if_neg hleads]
      omega

theorem occurrences_pos {part t : Text} (hpart : part ≠ []) (hwithin : part <:+: t) :
    0 < occurrences part t := by
  obtain ⟨before, behind, rfl⟩ := hwithin
  have hself : 0 < occurrences part part := by
    obtain ⟨c, part, rfl⟩ := List.exists_cons_of_ne_nil hpart
    rw [occurrences_cons, if_pos (List.prefix_refl _)]
    omega
  have hleft := occurrences_add_le hpart before part
  have hright := occurrences_add_le hpart (before ++ part) behind
  omega

theorem occurrences_append_of_not_beginsIn {part t : Text} (hnot : ¬ BeginsIn part t)
    (rest : Text) : occurrences part (t ++ rest) = occurrences part rest := by
  have hquiet := quiet_of_not_beginsIn hnot () rest
  clear hnot
  induction t with
  | nil => rfl
  | cons c t ih =>
    have hnot : ¬ part <+: c :: (t ++ rest) :=
      literal_eq_none_iff.mp (hquiet [] (c :: t) rfl (by simp))
    rw [List.cons_append, occurrences_cons_of_not_leads hnot, ih hquiet.tail]

/-- A sweep for a text that never overlaps another one leaves that one at all its places. -/
theorem occurrences_le_replaceAll {old part : Text} (hold : old ≠ []) (hpart : part ≠ [])
    (hinside : ¬ BeginsIn old part) (haround : ¬ BeginsIn part old) (new t : Text) :
    occurrences part t ≤ occurrences part (replaceAll old new t) := by
  induction t using sweep_induction hold with
  | nil => rw [occurrences_nil hpart]; exact Nat.zero_le _
  | char c r hnot ih =>
    rw [replaceAll_cons_of_not_leads hold hnot, occurrences_cons, occurrences_cons]
    by_cases hleads : part <+: c :: r
    · -- the sweep passes over the whole of `part` before it may replace anything
      obtain ⟨rest, hrest⟩ := hleads
      have hkept : part <+: c :: replaceAll old new r := by
        rw [← replaceAll_cons_of_not_leads hold hnot, ← hrest,
          replaceAll_append_of_not_beginsIn hold hinside]
        exact List.prefix_append _ _
      rw [if_pos ⟨rest, hrest⟩, if_pos hkept]
      omega
    · rw [if_neg hleads]
      omega
  | found rest ih =>
    rw [replaceAll_append_self hold, occurrences_append_of_not_beginsIn haround]
    exact Nat.le_trans ih (Nat.le_trans (Nat.le_add_left _ _) (occurrences_add_le hpart new _))

/-- How a sweep changes the number of times that a character stands in a text. -/
theorem count_replaceAll {d : Char} {old : Text} (hself : ¬ BeginsIn (d :: old) old) (new t : Text)
    (c : Char) :
    (replaceAll (d :: old) new t).count c + occurrences (d :: old) t * (d :: old).count c =
      t.count c + occurrences (d :: old) t * new.count c := by
  have hold : d :: old ≠ [] := List.cons_ne_nil d old
  induction t using sweep_induction hold with
  | nil =>
    rw [replaceAll_eq_self hold (by simp), occurrences_nil hold, Nat.zero_mul, Nat.zero_mul]
  | char e r hnot ih =>
    have hcons : ∀ s : Text, (e :: s).count c = s.count c + if e == c then 1 else 0 := fun _ =>
      List.count_cons
    rw [replaceAll_cons_of_not_leads hold hnot, occurrences_cons_of_not_leads hnot, hcons, hcons]
    omega
  | found rest ih =>
    have hone : occurrences (d :: old) (d :: old ++ rest) = occurrences (d :: old) rest + 1 := by
      have hleads : d :: old <+: d :: (old ++ rest) := List.prefix_append (d :: old) rest
      rw [List.cons_append, occurrences_cons, if_pos hleads,
        occurrences_append_of_not_beginsIn hself]
    rw [replaceAll_append_self hold, hone, List.count_append, List.count_append, Nat.succ_mul,
      Nat.succ_mul]
    omega

end Stencil.Text
