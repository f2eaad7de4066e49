import Mathlib.Data.List.DropRight
import Stencil.Files.Tree

namespace Stencil

namespace Text

theorem intercalate_append {between : Text} {front back : List Text} (hfront : front ≠ [])
    (hback : back ≠ []) : between.intercalate (front ++ back) =
      between.intercalate front ++ between ++ between.intercalate back := by
  induction front with
  | nil => exact absurd rfl hfront
  | cons part front ih =>
    cases front with
    | nil =>
      rw [List.singleton_append, List.intercalate_cons_of_ne_nil hback, List.intercalate_singleton]
    | cons next front =>
      have hrest := ih (List.cons_ne_nil _ _)
      rw [List.cons_append] at hrest
      rw [List.cons_append, List.cons_append, List.intercalate_cons_cons, hrest,
        List.intercalate_cons_cons]
      simp only [List.append_assoc]

theorem length_intercalate_le (between : Text) {front parts : List Text}
    (hfront : front <+: parts) :
    (between.intercalate front).length ≤ (between.intercalate parts).length := by
  obtain ⟨back, rfl⟩ := hfront
  by_cases hempty : front = []
  · simp [hempty]
  · by_cases hback : back = []
    · simp [hback]
    · rw [intercalate_append hempty hback]
      simp only [List.length_append]
      omega

variable {c : Char}

theorem splitAll_ne_nil (c : Char) (t : Text) : splitAll c t ≠ [] := by
  cases t with
  | nil => simp [splitAll]
  | cons d t =>
    rw [splitAll]
    split
    · simp
    · split <;> simp

/-- The parts of a text with the character between them are the text. -/
theorem intercalate_splitAll (c : Char) (t : Text) : [c].intercalate (splitAll c t) = t := by
  induction t with
  | nil => simp [splitAll]
  | cons d t ih =>
    rw [splitAll]
    split
    · rename_i heq
      rw [List.intercalate_cons_of_ne_nil (splitAll_ne_nil c t), ih, heq]
      rfl
    · split
      · rename_i hnil
        exact absurd hnil (splitAll_ne_nil c t)
      · rename_i part others hparts
        rw [List.intercalate_cons_cons_left, ← hparts, ih]

theorem splitAll_eq_singleton {a : Text} (hnot : c ∉ a) : splitAll c a = [a] := by
  induction a with
  | nil => rfl
  | cons d a ih =>
    obtain ⟨hne, hnot⟩ := not_or.mp (mt List.mem_cons.mpr hnot)
    rw [splitAll, if_neg (Ne.symm hne), ih hnot]

theorem splitAll_append_cons {a : Text} (hnot : c ∉ a) (t : Text) :
    splitAll c (a ++ c :: t) = a :: splitAll c t := by
  induction a with
  | nil => simp [splitAll]
  | cons d a ih =>
    obtain ⟨hne, hnot⟩ := not_or.mp (mt List.mem_cons.mpr hnot)
    rw [List.cons_append, splitAll, if_neg (Ne.symm hne), ih hnot]

theorem splitAll_intercalate {parts : List Text} (hsome : parts ≠ [])
    (hparts : ∀ part ∈ parts, c ∉ part) : splitAll c ([c].intercalate parts) = parts := by
  induction parts with
  | nil => exact absurd rfl hsome
  | cons part parts ih =>
    obtain ⟨hpart, hparts⟩ := List.forall_mem_cons.mp hparts
    cases parts with
    | nil =>
      rw [List.intercalate_singleton]
      exact splitAll_eq_singleton hpart
    | cons next parts =>
      have hrest := ih (List.cons_ne_nil _ _) hparts
      rw [List.intercalate_cons_cons, List.append_assoc, List.singleton_append,
        splitAll_append_cons hpart, hrest]

end Text

namespace Path

section Parent

theorem trimComponents_eq (parts : List Text) :
    trimComponents parts = parts.rdropWhile fun part => part = [] || part = ['.'] :=
  rfl

theorem trimComponents_isPrefix (parts : List Text) : trimComponents parts <+: parts := by
  rw [trimComponents_eq]
  exact List.rdropWhile_prefix _ _

theorem ne_nil_of_trimComponents {parts front : List Text} {last : Text}
    (htrim : trimComponents parts = front ++ [last]) : last ≠ [] := by
  rw [trimComponents_eq] at htrim
  have hlast := List.rdropWhile_last_not (fun part => part = [] || part = ['.']) parts
    (by simp [htrim])
  rintro rfl
  simp [htrim] at hlast

theorem trimComponents_append_singleton (parts : List Text) {name : Text} (hne : name ≠ [])
    (hdot : name ≠ ['.']) : trimComponents (parts ++ [name]) = parts ++ [name] := by
  rw [trimComponents_eq]
  exact List.rdropWhile_concat_neg _ _ _ (by simp [hne, hdot])

theorem anchor_isPrefix (path : Text) : anchor path <+: path := by
  fun_cases anchor path
  · exact ⟨_, rfl⟩
  · exact List.prefix_rfl
  · exact ⟨_, rfl⟩
  · exact List.nil_prefix

/-- A path without its last component is shorter. -/
theorem length_intercalate_dropLast_lt {parts : List Text} (hsome : trimComponents parts ≠ []) :
    (['/'].intercalate (trimComponents (trimComponents parts).dropLast)).length <
      (['/'].intercalate parts).length := by
  obtain ⟨front, last, htrim⟩ := (List.eq_nil_or_concat' _).resolve_left hsome
  have hlast := List.length_pos_of_ne_nil (ne_nil_of_trimComponents htrim)
  have hfront := Text.length_intercalate_le ['/'] (trimComponents_isPrefix front)
  have hparts := Text.length_intercalate_le ['/'] (trimComponents_isPrefix parts)
  rw [htrim] at hparts ⊢
  rw [List.dropLast_concat]
  by_cases hempty : front = []
  · subst hempty
    simp [trimComponents] at hparts ⊢
    omega
  · rw [Text.intercalate_append hempty (List.cons_ne_nil _ _), List.intercalate_singleton] at hparts
    simp only [List.length_append] at hparts
    omega

/-- The path of a parent directory is shorter. -/
theorem length_lt_of_parent {path dir : Text} (hparent : parent path = some dir) :
    dir.length < path.length := by
  have hlength := congrArg List.length (List.prefix_iff_eq_append.mp (anchor_isPrefix path))
  rw [List.length_append] at hlength
  rw [parent] at hparent
  generalize path.drop (anchor path).length = rest at hparent hlength
  split at hparent
  · split at hparent
    · rename_i hdot
      cases hparent
      rw [hdot] at hlength
      simp only [List.length_cons] at hlength
      simp only [List.length_nil]
      omega
    · cases hparent
  · rename_i hsome
    cases hparent
    have hlt := length_intercalate_dropLast_lt (mt List.isEmpty_iff.mpr hsome)
    rw [components, Text.intercalate_splitAll, ← components] at hlt
    rw [List.length_append]
    omega

/-- The directory so many steps above another one. -/
def up : Nat → Text → Option Text
  | 0, path => some path
  | steps + 1, path => (parent path).bind (up steps)

theorem getElem?_ancestorsFrom {fuel : Nat} {path : Text} (hfuel : path.length < fuel) (n : Nat) :
    (ancestorsFrom fuel path)[n]? = up n path := by
  induction fuel generalizing path n with
  | zero => exact absurd hfuel (Nat.not_lt_zero _)
  | succ fuel ih =>
    cases n with
    | zero => rfl
    | succ n =>
      rw [ancestorsFrom, List.getElem?_cons_succ, up]
      cases hparent : parent path with
      | none => rfl
      | some dir =>
        have hshorter := length_lt_of_parent hparent
        exact ih (by omega) n

/-- The way upwards is gone to its end. -/
theorem getElem?_ancestors (path : Text) (n : Nat) : (ancestors path)[n]? = up n path :=
  getElem?_ancestorsFrom (Nat.lt_succ_self _) n

end Parent

end Path

namespace Tree

/-- What something in a directory may be called. -/
structure IsName (name : Text) : Prop where
  ne_nil : name ≠ []
  ne_dot : name ≠ ['.']
  not_mem : '/' ∉ name

theorem pathOf_eq (place : List Text) : pathOf place = '/' :: ['/'].intercalate place := by
  induction place with
  | nil => rfl
  | cons name place ih =>
    cases place with
    | nil => simp [pathOf]
    | cons next place =>
      rw [List.intercalate_cons_cons, List.append_assoc, List.singleton_append, ← ih]
      simp [pathOf]

variable {place : List Text} {name : Text}

theorem join_pathOf (hplace : ∀ other ∈ place, IsName other) (hname : IsName name) :
    Path.join (pathOf place) name = pathOf (place ++ [name]) := by
  have hrelative : name.head? ≠ some '/' := fun hhead =>
    hname.not_mem (List.mem_of_mem_head? hhead)
  rw [Path.join, if_neg hrelative]
  rcases List.eq_nil_or_concat' place with rfl | ⟨front, last, rfl⟩
  · simp [pathOf]
  · obtain ⟨lastInit, c, hlast⟩ :=
      (List.eq_nil_or_concat' last).resolve_left (hplace last (by simp)).ne_nil
    have hc : c ≠ '/' := by
      rintro rfl
      exact (hplace last (by simp)).not_mem (by simp [hlast])
    have hend : (pathOf (front ++ [last])).getLast? = some c := by
      simp [pathOf, hlast, List.getLast?_cons]
    have hsome : pathOf (front ++ [last]) ≠ [] := by
      rw [pathOf_eq]
      exact List.cons_ne_nil _ _
    rw [if_neg (by simp [hend, hc, hsome])]
    simp [pathOf]

/-- A place lies in the place above it. -/
theorem parent_pathOf_append (hplace : ∀ other ∈ place, IsName other) (hname : IsName name) :
    Path.parent (pathOf (place ++ [name])) = some (pathOf place) := by
  have hparts : Path.components (['/'].intercalate (place ++ [name])) = place ++ [name] := by
    refine Text.splitAll_intercalate (by simp) fun part hpart => ?_
    rcases List.mem_append.mp hpart with hmem | hmem
    · exact (hplace part hmem).not_mem
    · cases List.mem_singleton.mp hmem
      exact hname.not_mem
  have hfront : Path.trimComponents place = place := by
    rcases List.eq_nil_or_concat' place with rfl | ⟨front, last, rfl⟩
    · rfl
    · have hlast := hplace last (by simp)
      exact Path.trimComponents_append_singleton front hlast.ne_nil hlast.ne_dot
  have hstart : Path.anchor (pathOf (place ++ [name])) = ['/'] := by
    rw [pathOf_eq, Path.anchor]
  have hrest : (pathOf (place ++ [name])).drop 1 = ['/'].intercalate (place ++ [name]) := by
    rw [pathOf_eq, List.drop_one, List.tail_cons]
  simp only [Path.parent, hstart, List.length_singleton, hrest, hparts,
    Path.trimComponents_append_singleton place hname.ne_nil hname.ne_dot, List.dropLast_concat,
    hfront]
  rw [if_neg (by simp), pathOf_eq, List.singleton_append]

theorem parent_pathOf_nil : Path.parent (pathOf []) = none := by
  decide

/-- The way upwards from a place leads through the places above it. -/
theorem up_pathOf_eq_some_iff (hplace : ∀ other ∈ place, IsName other) {steps : Nat} {dir : Text} :
    Path.up steps (pathOf place) = some dir ↔
      ∃ above, above <+: place ∧ above.length + steps = place.length ∧ pathOf above = dir := by
  induction steps generalizing place with
  | zero =>
    constructor
    · intro hdir
      exact ⟨place, List.prefix_rfl, rfl, Option.some_inj.mp hdir⟩
    · rintro ⟨above, habove, hlength, rfl⟩
      rw [habove.eq_of_length hlength]
      rfl
  | succ steps ih =>
    rw [Path.up]
    rcases List.eq_nil_or_concat' place with rfl | ⟨front, last, rfl⟩
    · rw [parent_pathOf_nil]
      constructor
      · rintro ⟨⟩
      · rintro ⟨above, -, hlength, -⟩
        exact absurd hlength (by simp)
    · obtain ⟨hfront, hlast⟩ := List.forall_mem_append.mp hplace
      rw [parent_pathOf_append hfront (hlast last (by simp)), Option.bind_some, ih hfront]
      refine exists_congr fun above => ?_
      constructor
      · rintro ⟨habove, hlength, hdir⟩
        exact ⟨habove.trans (List.prefix_append _ _), by simp [← hlength, Nat.add_assoc], hdir⟩
      · rintro ⟨habove, hlength, hdir⟩
        have hlength' : above.length + steps = front.length := by
          simpa [← Nat.add_assoc] using hlength
        refine ⟨List.prefix_of_prefix_length_le habove (List.prefix_append _ _) ?_, hlength', hdir⟩
        exact hlength' ▸ Nat.le_add_right _ _

end Tree

end Stencil
