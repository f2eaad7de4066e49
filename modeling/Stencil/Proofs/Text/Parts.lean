import Stencil.Proofs.Text.Leftmost

namespace Stencil.Text

theorem bytes_append (a b : Text) : bytes (a ++ b) = bytes a + bytes b := by
  induction a with
  | nil => simp [bytes]
  | cons c a ih => rw [List.cons_append, bytes, bytes, ih, Nat.add_assoc]

/-- The bytes of a text are those of its first character and at least one, with the others left. -/
theorem bytes_cons (c : Char) (a : Text) :
    ∃ n, bytes (c :: a) = n + 1 ∧ c.utf8Size ≤ n + 1 ∧ n + 1 - c.utf8Size = bytes a := by
  have hsize := Char.utf8Size_pos c
  refine ⟨bytes (c :: a) - 1, ?_, ?_, ?_⟩ <;> rw [bytes] <;> omega

theorem dropBytes_append (a t : Text) : dropBytes (bytes a) (a ++ t) = some t := by
  induction a with
  | nil => cases t <;> rfl
  | cons c a ih =>
    obtain ⟨n, hn, hfits, hrest⟩ := bytes_cons c a
    rw [hn, List.cons_append, dropBytes, if_pos hfits, hrest, ih]

theorem takeBytes_append (a t : Text) : takeBytes (bytes a) (a ++ t) = some a := by
  induction a with
  | nil => cases t <;> rfl
  | cons c a ih =>
    obtain ⟨n, hn, hfits, hrest⟩ := bytes_cons c a
    rw [hn, List.cons_append, takeBytes, if_pos hfits, hrest, ih]
    rfl

/-- Whole texts between others are found again by their offsets. -/
theorem slice_append (a b c : Text) :
    slice (bytes a) (bytes a + bytes b) (a ++ b ++ c) = some b := by
  rw [slice, List.append_assoc, dropBytes_append, Option.bind_some, Nat.add_sub_cancel_left,
    takeBytes_append]

theorem takeWhile_append_of_stop {p : Char → Bool} {a t : Text} (ha : ∀ c ∈ a, p c = true)
    (ht : ∀ c ∈ t.head?, p c = false) : (a ++ t).takeWhile p = a := by
  rw [List.takeWhile_append_of_pos ha]
  cases t with
  | nil => simp
  | cons c t =>
    have hstop := ht c rfl
    simp [hstop]

theorem dropWhile_append_of_stop {p : Char → Bool} {a t : Text} (ha : ∀ c ∈ a, p c = true)
    (ht : ∀ c ∈ t.head?, p c = false) : (a ++ t).dropWhile p = t := by
  rw [List.dropWhile_append_of_pos ha]
  cases t with
  | nil => rfl
  | cons c t => rw [List.dropWhile_cons_of_neg (by simp [ht c rfl])]

/-- What begins with a character that the front does not have stands behind the front. -/
theorem infix_of_infix_append {c : Char} {part a b : Text} (hnot : c ∉ a)
    (hwithin : c :: part <:+: a ++ b) : c :: part <:+: b := by
  induction a with
  | nil => exact hwithin
  | cons d a ih =>
    obtain ⟨hne, hnot⟩ := not_or.mp (mt List.mem_cons.mpr hnot)
    rw [List.cons_append, List.infix_cons_iff, List.cons_prefix_cons] at hwithin
    rcases hwithin with ⟨heq, -⟩ | hlater
    · exact absurd heq hne
    · exact ih hnot hlater

theorem after?_append (lead rest : Text) : after? lead (lead ++ rest) = some rest :=
  after?_eq_some_iff.mpr rfl

/-- A text is cut at a mark behind a part without the mark, as the last character of the mark
stands in it only once. -/
theorem cutAt_append {lead body : Text} {c : Char} (hlead : c ∉ lead)
    (hbody : ¬ lead ++ [c] <:+: body) (rest : Text) :
    cutAt (lead ++ [c]) (body ++ (lead ++ [c] ++ rest)) = some (body, rest) := by
  induction body with
  | nil =>
    obtain ⟨d, t, hcons⟩ := List.exists_cons_of_ne_nil (l := lead ++ [c] ++ rest) (by simp)
    have hafter := after?_append (lead ++ [c]) rest
    rw [hcons] at hafter
    rw [List.nil_append, hcons, cutAt, hafter]
  | cons d body ih =>
    have hnone : after? (lead ++ [c]) (d :: (body ++ (lead ++ [c] ++ rest))) = none := by
      rw [Option.eq_none_iff_forall_ne_some]
      intro t hsome
      have hfront : lead ++ [c] <+: d :: body ++ (lead ++ [c] ++ rest) :=
        ⟨t, (after?_eq_some_iff.mp hsome).symm⟩
      rcases List.prefix_or_prefix_of_prefix hfront (List.prefix_append _ _) with hshort | hlong
      · exact hbody hshort.isInfix
      · -- the mark would go on behind the part, so its last character would stand in it before
        obtain ⟨more, hmore⟩ := hlong
        rcases List.eq_nil_or_concat more with rfl | ⟨more, e, rfl⟩
        · rw [List.append_nil] at hmore
          exact hbody (hmore ▸ List.infix_refl _)
        · rw [List.concat_eq_append] at hmore
          have hsplit := hmore
          rw [← List.append_assoc] at hsplit
          obtain ⟨hlead', hlast⟩ := List.append_inj' hsplit rfl
          cases hlast
          have hmark : more ++ [c] <+: lead := by
            rw [← hmore, List.prefix_append_right_inj, hmore, List.append_assoc] at hfront
            apply List.prefix_of_prefix_length_le hfront (List.prefix_append _ _)
            simp [← hlead']
          exact hlead (hmark.subset (List.mem_append_right _ (List.mem_singleton_self c)))
    rw [List.cons_append, cutAt, hnone, ih (fun hwithin => hbody (hwithin.trans
      (List.suffix_cons d body).isInfix))]
    rfl

theorem cutAt_eq_none_iff {mark t : Text} : cutAt mark t = none ↔ ¬ mark <:+: t := by
  induction t with
  | nil => simp [cutAt]
  | cons c t ih =>
    rw [cutAt, List.infix_cons_iff, not_or, ← ih]
    cases hafter : after? mark (c :: t) with
    | some rest =>
      have hfront : mark <+: c :: t := ⟨rest, (after?_eq_some_iff.mp hafter).symm⟩
      simp [hfront]
    | none =>
      have hnot : ¬ mark <+: c :: t := by
        rintro ⟨rest, hrest⟩
        rw [after?_eq_some_iff.mpr hrest.symm] at hafter
        cases hafter
      simp [hnot]

theorem holds_iff {part t : Text} : holds part t = true ↔ part <:+: t := by
  rw [holds, Option.isSome_iff_ne_none, ne_eq, cutAt_eq_none_iff, Classical.not_not]

theorem beforeLast_eq_none {c : Char} {mark t : Text} (hnot : c ∉ t) :
    beforeLast (c :: mark) t = none := by
  induction t with
  | nil => rfl
  | cons d t ih =>
    obtain ⟨hne, hnot⟩ := not_or.mp (mt List.mem_cons.mpr hnot)
    rw [beforeLast, ih hnot]
    simp [after?, hne]

/-- The last mark is the one behind which its first character does not stand. -/
theorem beforeLast_append {c : Char} {mark t : Text} (hnot : c ∉ mark ++ t) (body : Text) :
    beforeLast (c :: mark) (body ++ c :: (mark ++ t)) = some body := by
  induction body with
  | nil =>
    have hfound : after? (c :: mark) (c :: (mark ++ t)) = some t := after?_append (c :: mark) t
    rw [List.nil_append, beforeLast, beforeLast_eq_none hnot, hfound]
    rfl
  | cons d body ih => rw [List.cons_append, beforeLast, ih]

end Stencil.Text
