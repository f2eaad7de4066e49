import Mathlib.Data.List.TakeWhile
import Stencil.Proofs.Markup.Fragment
import Stencil.Proofs.Text.Leftmost
import Stencil.Proofs.Text.Parts

namespace Stencil

namespace Text

theorem trimEnd_prefix (t : Text) : trimEnd t <+: t := by
  rw [trimEnd, ← List.reverse_suffix, List.reverse_reverse]
  exact List.dropWhile_suffix _

theorem trimEnd_append (a b : Text) :
    trimEnd (a ++ b) = if trimEnd b = [] then trimEnd a else a ++ trimEnd b := by
  simp only [trimEnd, List.reverse_append, List.dropWhile_append, List.isEmpty_iff,
    List.reverse_eq_nil_iff]
  split
  · rfl
  · rw [List.reverse_append, List.reverse_reverse]

theorem trimEnd_eq_nil {t : Text} (hblank : ∀ c ∈ t, isBlank c = true) : trimEnd t = [] := by
  rw [trimEnd, List.reverse_eq_nil_iff, List.dropWhile_eq_nil_iff]
  exact fun c hc => hblank c (List.mem_reverse.mp hc)

theorem trimEnd_concat {c : Char} (hc : isBlank c = false) (a : Text) :
    trimEnd (a ++ [c]) = a ++ [c] := by
  simp [trimEnd, hc]

end Text

namespace Markup

/-- Whether a name goes on, behind one of `neverEmpty`, with a character that is no word
character. -/
def goesOn (name : Text) : Bool :=
  neverEmpty.any fun lead =>
    match Text.after? lead name with
    | some (c :: _) => !Text.isWord c
    | _ => false

section Names

variable {t name rest : Text}

/-- No name of `neverEmpty` begins with another one, so at most one of them stands at the front of a
text. -/
theorem eq_of_prefix_of_mem_neverEmpty :
    ∀ name ∈ neverEmpty, ∀ other ∈ neverEmpty, name <+: other → name = other := by
  decide

theorem not_mem_of_mem_neverEmpty {c : Char} (hname : name ∈ neverEmpty)
    (hchar : isNameChar c = false) : c ∉ name := by
  have hchars : ∀ name ∈ neverEmpty, ∀ c ∈ name, isNameChar c = true := by
    simp [neverEmpty, isNameChar, isSpace]
  intro hmem
  rw [hchars name hname c hmem] at hchar
  cases hchar

/-- The text behind a name at the front of a text, if the name ends there. -/
def behindName (name t : Text) : Option Text :=
  (Text.after? name t).filter fun rest => rest.head?.all fun c => !Text.isWord c

theorem behindName_eq_some_iff :
    behindName name t = some rest ↔ t = name ++ rest ∧ ∀ c ∈ rest.head?, Text.isWord c = false := by
  rw [behindName, Option.filter_eq_some_iff, Text.after?_eq_some_iff]
  cases rest with
  | nil => simp
  | cons c rest => simp

theorem nameAt_eq_findSome? (t : Text) :
    nameAt t = neverEmpty.findSome? fun name => (behindName name t).map (name, ·) := by
  rw [nameAt]
  congr 1
  funext name
  rw [behindName]
  cases Text.after? name t with
  | none => rfl
  | some rest =>
    cases rest with
    | nil => rfl
    | cons c rest => cases hword : Text.isWord c <;> simp [Option.filter, hword]

theorem nameAt_eq_some_iff :
    nameAt t = some (name, rest) ↔
      name ∈ neverEmpty ∧ t = name ++ rest ∧ ∀ c ∈ rest.head?, Text.isWord c = false := by
  rw [nameAt_eq_findSome?, ← behindName_eq_some_iff]
  have hfound : ∀ other behind,
      (neverEmpty.findSome? fun name => (behindName name t).map (name, ·)) = some (other, behind) →
        other ∈ neverEmpty ∧ behindName other t = some behind := by
    intro other behind hsome
    obtain ⟨lead, hlead, hat⟩ := List.exists_of_findSome?_eq_some hsome
    obtain ⟨r, hr, heq⟩ := Option.map_eq_some_iff.mp hat
    cases heq
    exact ⟨hlead, hr⟩
  refine ⟨hfound name rest, fun ⟨hname, hat⟩ => ?_⟩
  have hsome : (neverEmpty.findSome? fun name => (behindName name t).map (name, ·)).isSome :=
    List.findSome?_isSome_iff.mpr ⟨name, hname, by rw [hat]; rfl⟩
  obtain ⟨⟨other, behind⟩, hother⟩ := Option.isSome_iff_exists.mp hsome
  obtain ⟨hmem, hbehind⟩ := hfound other behind hother
  have hfront : name <+: t := ⟨rest, (behindName_eq_some_iff.mp hat).1.symm⟩
  have hfront' : other <+: t := ⟨behind, (behindName_eq_some_iff.mp hbehind).1.symm⟩
  obtain rfl : other = name := by
    rcases List.prefix_or_prefix_of_prefix hfront' hfront with hshort | hlong
    · exact eq_of_prefix_of_mem_neverEmpty other hmem name hname hshort
    · exact (eq_of_prefix_of_mem_neverEmpty name hname other hmem hlong).symm
  rw [hother, Option.some.inj (hbehind.symm.trans hat)]

/-- A name ends in front of a character that is in no name. -/
theorem nameAt_append_cons {c : Char} (hword : Text.isWord c = false)
    (hchar : isNameChar c = false) (w rest : Text) :
    nameAt (w ++ c :: rest) = (nameAt w).map fun (name, behind) => (name, behind ++ c :: rest) := by
  cases hw : nameAt w with
  | some found =>
    obtain ⟨name, behind⟩ := found
    obtain ⟨hname, rfl, hends⟩ := nameAt_eq_some_iff.mp hw
    refine nameAt_eq_some_iff.mpr ⟨hname, List.append_assoc .., fun d hd => ?_⟩
    cases behind with
    | nil =>
      cases hd
      exact hword
    | cons e behind => exact hends d hd
  | none =>
    rw [Option.map_none, Option.eq_none_iff_forall_ne_some]
    rintro ⟨name, behind⟩ hfound
    obtain ⟨hname, hsplit, hends⟩ := nameAt_eq_some_iff.mp hfound
    have hfront : name <+: w := by
      rcases List.prefix_or_prefix_of_prefix (List.prefix_append w (c :: rest))
        (⟨behind, hsplit.symm⟩ : name <+: w ++ c :: rest) with ⟨more, rfl⟩ | hshort
      · cases more with
        | nil => simp
        | cons d more =>
          rw [List.append_assoc, List.append_cancel_left_eq] at hsplit
          refine absurd ?_ (not_mem_of_mem_neverEmpty hname hchar)
          rw [(List.cons.inj hsplit).1]
          simp
      · exact hshort
    obtain ⟨more, rfl⟩ := hfront
    rw [List.append_assoc, List.append_cancel_left_eq] at hsplit
    have hat : nameAt (name ++ more) = some (name, more) := by
      refine nameAt_eq_some_iff.mpr ⟨hname, rfl, fun d hd => hends d ?_⟩
      rw [← hsplit, List.head?_append, Option.mem_def.mp hd]
      rfl
    rw [hat] at hw
    cases hw

end Names

/-- What stands for the self-closed tag with the given text in front of its slash. -/
def bothTags (w : Text) : Text :=
  match nameAt w with
  | none => bracketed (w ++ ['/'])
  | some (name, behind) => bracketed (name ++ Text.trimEnd behind) ++ bracketed ('/' :: name)

section Tags

variable {w rest : Text}

theorem selfClosed_cons_of_ne {c : Char} (hc : c ≠ '<') (t : Text) :
    selfClosed (c :: t) = none := by
  unfold selfClosed
  split
  · rename_i heq
    exact absurd (List.cons.inj heq).1 hc
  · rfl

theorem quiet_of_not_mem {s : Text} (hnot : '<' ∉ s) (rest : Text) :
    Text.Quiet selfClosed s rest := by
  induction s with
  | nil => exact Text.quiet_nil _ _
  | cons c s ih =>
    obtain ⟨hne, hnot⟩ := not_or.mp (mt List.mem_cons.mpr hnot)
    exact .cons (selfClosed_cons_of_ne (Ne.symm hne) _) (ih hnot)

theorem takeWhile_append_gt {body : Text} (hbody : '>' ∉ body) (rest : Text) :
    (body ++ '>' :: rest).takeWhile (· ≠ '>') = body := by
  refine Text.takeWhile_append_of_stop (fun c hc => ?_) (by simp)
  simpa using ne_of_mem_of_not_mem hc hbody

/-- A tag that ends with a slash is one for a self-closed element. -/
theorem selfClosed_slash {t name behind : Text}
    (hname : nameAt t = some (name, behind ++ ['/'] ++ '>' :: rest)) (hbehind : '>' ∉ behind) :
    selfClosed ('<' :: t) =
      some (bracketed (name ++ Text.trimEnd behind) ++ bracketed ('/' :: name),
        name.length + behind.length + 2) := by
  have hbody : (behind ++ ['/'] ++ '>' :: rest).takeWhile (· ≠ '>') = behind ++ ['/'] :=
    takeWhile_append_gt (by simpa using hbehind) rest
  rw [selfClosed, hname]
  simp only [hbody, List.drop_left]
  simp [bracketed, Nat.add_assoc]

theorem selfClosed_eq_none {t name behind : Text}
    (hname : nameAt t = some (name, behind ++ '>' :: rest)) (hbehind : '>' ∉ behind)
    (hlast : behind.getLast? ≠ some '/') : selfClosed ('<' :: t) = none := by
  rw [selfClosed, hname]
  simp only [takeWhile_append_gt hbehind, List.drop_left]
  split
  · rename_i heq _
    rw [List.reverse_eq_cons_iff] at heq
    rw [heq, List.getLast?_concat] at hlast
    exact absurd rfl hlast
  · rfl

theorem isWord_gt : Text.isWord '>' = false := by decide

theorem isWord_slash : Text.isWord '/' = false := by decide

/-- A tag that does not end with a slash is not looked at further. -/
theorem selfClosed_tag_eq_none {body : Text} (hbody : '>' ∉ body)
    (hlast : body.getLast? ≠ some '/') (rest : Text) :
    selfClosed ('<' :: (body ++ '>' :: rest)) = none := by
  have hat := nameAt_append_cons isWord_gt (by decide) body rest
  cases hname : nameAt body with
  | none =>
    rw [hname] at hat
    rw [selfClosed, hat]
    rfl
  | some found =>
    obtain ⟨name, behind⟩ := found
    obtain ⟨-, rfl, -⟩ := nameAt_eq_some_iff.mp hname
    rw [hname] at hat
    refine selfClosed_eq_none hat (fun hmem => hbody (List.mem_append_right _ hmem)) ?_
    intro hslash
    rw [List.getLast?_append, hslash] at hlast
    exact hlast rfl

theorem selfClosed_emptyTag (hw : '>' ∉ w) (rest : Text) :
    selfClosed ('<' :: (w ++ ['/'] ++ '>' :: rest)) =
      (nameAt w).map fun _ => (bothTags w, w.length + 2) := by
  have hat := nameAt_append_cons isWord_slash (by decide) w ('>' :: rest)
  rw [List.append_assoc, List.singleton_append, bothTags]
  cases hname : nameAt w with
  | none =>
    rw [hname] at hat
    rw [selfClosed, hat]
    rfl
  | some found =>
    obtain ⟨name, behind⟩ := found
    obtain ⟨-, rfl, -⟩ := nameAt_eq_some_iff.mp hname
    have hbehind : '>' ∉ behind := fun hmem => hw (List.mem_append_right _ hmem)
    have hslash : nameAt (name ++ behind ++ '/' :: '>' :: rest) =
        some (name, behind ++ ['/'] ++ '>' :: rest) := by
      rw [hat, hname, Option.map_some, List.append_assoc, List.singleton_append]
    rw [List.length_append, Option.map_some]
    exact selfClosed_slash hslash hbehind

end Tags

/-- A text that is read as another one, whatever stands behind it. -/
def Expands (a b : Text) : Prop :=
  ∀ rest, expandSelfClosed (a ++ rest) = b ++ expandSelfClosed rest

section Expands

variable {a b c d t w body : Text}

theorem Expands.nil : Expands [] [] := fun _ => rfl

theorem Expands.append (hab : Expands a b) (hcd : Expands c d) : Expands (a ++ c) (b ++ d) := by
  intro rest
  rw [List.append_assoc, hab, hcd, List.append_assoc]

theorem Expands.eq (hab : Expands a b) : expandSelfClosed a = b := by
  have hread := hab []
  rwa [List.append_nil, show expandSelfClosed [] = [] from rfl, List.append_nil] at hread

theorem expands_text (ht : '<' ∉ t) : Expands t t := fun rest =>
  Text.replaceMatches_append_of_quiet (quiet_of_not_mem ht rest)

theorem bracketed_append (body rest : Text) :
    bracketed body ++ rest = '<' :: (body ++ '>' :: rest) := by
  simp [bracketed]

theorem expands_bracketed (hbody : '<' ∉ body)
    (hnone : ∀ rest, selfClosed ('<' :: (body ++ '>' :: rest)) = none) :
    Expands (bracketed body) (bracketed body) := by
  intro rest
  have hinside : '<' ∉ body ++ ['>'] := by simpa using hbody
  refine Text.replaceMatches_append_of_quiet (.cons ?_ (quiet_of_not_mem hinside rest))
  rw [List.append_assoc]
  exact hnone rest

/-- A tag without a slash at its end stays. -/
theorem expands_tag (hbody : '<' ∉ body ∧ '>' ∉ body) (hlast : body.getLast? ≠ some '/') :
    Expands (bracketed body) (bracketed body) :=
  expands_bracketed hbody.1 (selfClosed_tag_eq_none hbody.2 hlast)

theorem expands_closing (hbody : '<' ∉ body) :
    Expands (bracketed ('/' :: body)) (bracketed ('/' :: body)) := by
  refine expands_bracketed (by simpa using hbody) fun rest => ?_
  have hat : nameAt ('/' :: body ++ '>' :: rest) = none :=
    nameAt_append_cons isWord_slash (by decide) [] (body ++ '>' :: rest)
  rw [selfClosed, hat]

theorem expands_emptyTag (hw : '<' ∉ w ∧ '>' ∉ w) :
    Expands (bracketed (w ++ ['/'])) (bothTags w) := by
  have hmatch := selfClosed_emptyTag hw.2
  cases hname : nameAt w with
  | none =>
    rw [bothTags, hname]
    refine expands_bracketed (by simpa using hw.1) fun rest => ?_
    rw [hmatch, hname, Option.map_none]
  | some found =>
    intro rest
    have hlength : (bracketed (w ++ ['/'])).length = w.length + 2 + 1 := by simp [bracketed]
    refine Text.replaceMatches_append_of_match hlength ?_
    rw [bracketed_append, hmatch, hname, Option.map_some]

/-- Both tags stay as they are. -/
theorem expands_bothTags (hw : '<' ∉ w ∧ '>' ∉ w) (hlast : (Text.trimEnd w).getLast? ≠ some '/') :
    Expands (bothTags w) (bothTags w) := by
  cases hname : nameAt w with
  | none =>
    have hsame := expands_emptyTag hw
    rw [bothTags, hname] at hsame ⊢
    exact hsame
  | some found =>
    obtain ⟨name, behind⟩ := found
    obtain ⟨hmem, rfl, -⟩ := nameAt_eq_some_iff.mp hname
    have hwithin : name ++ Text.trimEnd behind <+: name ++ behind :=
      (List.prefix_append_right_inj name).mpr (Text.trimEnd_prefix behind)
    rw [bothTags, hname]
    refine .append (expands_tag ⟨?_, ?_⟩ ?_) (expands_closing ?_)
    · exact fun hlt => hw.1 (hwithin.subset hlt)
    · exact fun hgt => hw.2 (hwithin.subset hgt)
    · rw [Text.trimEnd_append] at hlast
      split at hlast
      · rename_i hempty
        rw [hempty, List.append_nil]
        exact fun hslash => not_mem_of_mem_neverEmpty hmem (by decide) (List.mem_of_getLast? hslash)
      · exact hlast
    · exact not_mem_of_mem_neverEmpty hmem (by decide)

end Expands

section Openings

variable (opening : Opening)

theorem eq_of_isSpace {c : Char} (hspace : isSpace c = true) :
    c = ' ' ∨ c = '\t' ∨ c = '\r' ∨ c = '\n' := by
  simpa [isSpace, or_assoc] using hspace

theorem isBlank_of_isSpace {c : Char} (hspace : isSpace c = true) : Text.isBlank c = true := by
  rcases eq_of_isSpace hspace with rfl | rfl | rfl | rfl <;> decide

theorem isWord_of_isSpace {c : Char} (hspace : isSpace c = true) : Text.isWord c = false := by
  rcases eq_of_isSpace hspace with rfl | rfl | rfl | rfl <;> decide

/-- The attributes of a tag end with a quote. -/
theorem Opening.assignments_eq :
    opening.assignments = [] ∨ ∃ a quote, opening.assignments = a ++ [Quote.char quote] := by
  rw [assignments]
  rcases List.eq_nil_or_concat opening.attributes with hnil | ⟨items, item, hitems⟩
  · left
    rw [hnil, List.flatMap_nil]
  · right
    refine ⟨items.flatMap Assignment.write ++ (item.lead.text ++ (item.key.text ++
      (item.before.text ++ ['='] ++ (item.behind.text ++ item.quote.char :: item.value)))),
      item.quote, ?_⟩
    rw [hitems]
    simp [Assignment.write]

/-- White space behind the attributes is the white space at the end. -/
theorem Opening.trimEnd_assignments :
    Text.trimEnd (opening.assignments ++ opening.space.text) = opening.assignments := by
  have hspace : Text.trimEnd opening.space.text = [] :=
    Text.trimEnd_eq_nil fun c hc => isBlank_of_isSpace (opening.space.spaces c hc)
  rw [Text.trimEnd_append, if_pos hspace]
  rcases opening.assignments_eq with hnil | ⟨a, quote, hends⟩
  · rw [hnil]
    rfl
  · have hquote : Text.isBlank quote.char = false := by cases quote <;> decide
    rw [hends, Text.trimEnd_concat hquote]

theorem Opening.getLast?_trimEnd_write :
    (Text.trimEnd opening.write).getLast? ≠ some '/' := by
  rw [write, Text.trimEnd_append, opening.trimEnd_assignments]
  split
  · exact fun hlast => opening.name.not_mem (by decide)
      ((Text.trimEnd_prefix _).subset (List.mem_of_getLast? hlast))
  · rename_i hne
    obtain ⟨a, quote, hends⟩ := opening.assignments_eq.resolve_left hne
    rw [hends, ← List.append_assoc, List.getLast?_concat]
    cases quote <;> decide

theorem Opening.getLast?_write : opening.write.getLast? ≠ some '/' := by
  intro hlast
  obtain ⟨a, hends⟩ := List.getLast?_eq_some_iff.mp hlast
  have htrim := opening.getLast?_trimEnd_write
  rw [hends, Text.trimEnd_concat (by decide), List.getLast?_concat] at htrim
  exact htrim rfl

theorem Opening.isSpace_head? :
    ∀ c ∈ (opening.assignments ++ opening.space.text).head?, isSpace c = true :=
  isSpace_head?_flatMap (fun item _ => item.lead_ne_nil) opening.space

theorem Assignment.not_mem_write (item : Assignment) {c : Char} (hc : c = '<' ∨ c = '>') :
    c ∉ item.write := by
  have hchar : isNameChar c = false ∧ isSpace c = false ∧ c ≠ '=' ∧ c ≠ item.quote.char := by
    rcases hc with rfl | rfl <;> cases item.quote <;> decide
  have hvalue : c ∉ item.value := by
    intro hmem
    rcases hc with rfl | rfl
    · exact (item.plain _ hmem).1 rfl
    · exact (item.plain _ hmem).2.1 rfl
  obtain ⟨hname, hspace, hequals, hquote⟩ := hchar
  simp [write, item.lead.not_mem hspace, item.key.not_mem hname, item.before.not_mem hspace,
    item.behind.not_mem hspace, hequals, hquote, hvalue]

/-- No angle bracket stands in a tag. -/
theorem Opening.not_mem_write : '<' ∉ opening.write ∧ '>' ∉ opening.write := by
  have hnot : ∀ c : Char, c = '<' ∨ c = '>' → c ∉ opening.write := by
    intro c hc
    have hchar : isNameChar c = false ∧ isSpace c = false := by
      rcases hc with rfl | rfl <;> decide
    simp only [write, assignments, List.mem_append, List.mem_flatMap, not_or, not_exists, not_and]
    exact ⟨opening.name.not_mem hchar.1, fun item _ => item.not_mem_write hc,
      opening.space.not_mem hchar.2⟩
  exact ⟨hnot '<' (.inl rfl), hnot '>' (.inr rfl)⟩

/-- The name that is found in a tag is the front of the name of the tag, and ends there or in front
of a character that is no word character. -/
theorem Opening.nameAt_write_eq_some_iff {name behind : Text} :
    nameAt opening.write = some (name, behind) ↔
      name ∈ neverEmpty ∧ ∃ more, opening.name.text = name ++ more ∧
        behind = more ++ (opening.assignments ++ opening.space.text) ∧
        ∀ c ∈ more.head?, Text.isWord c = false := by
  rw [nameAt_eq_some_iff, write]
  constructor
  · rintro ⟨hmem, hsplit, hends⟩
    refine ⟨hmem, ?_⟩
    rcases List.append_eq_append_iff.mp hsplit with ⟨more, hname, hmore⟩ | ⟨more, hname, hmore⟩
    · cases more with
      | nil =>
        rw [List.append_nil] at hname
        exact ⟨[], by rw [hname, List.append_nil], hmore.symm, by simp⟩
      | cons c more =>
        -- a name of `neverEmpty` does not go on in the white space behind the name of the tag
        have hspace := opening.isSpace_head? c (by rw [hmore]; rfl)
        have hchar : isNameChar c = false := by simp [isNameChar, hspace]
        exact absurd (by simp [hname]) (not_mem_of_mem_neverEmpty hmem hchar)
    · refine ⟨more, hname, hmore, fun c hc => hends c ?_⟩
      rw [hmore, List.head?_append, Option.mem_def.mp hc]
      rfl
  · rintro ⟨hmem, more, hname, rfl, hends⟩
    refine ⟨hmem, by rw [hname, List.append_assoc], fun c hc => ?_⟩
    cases more with
    | nil => exact isWord_of_isSpace (opening.isSpace_head? c hc)
    | cons d more => exact hends c hc

end Openings

section Names

theorem goesOn_iff {name : Text} :
    goesOn name = true ↔
      ∃ lead ∈ neverEmpty, ∃ c more, name = lead ++ c :: more ∧ Text.isWord c = false := by
  rw [goesOn, List.any_eq_true]
  refine exists_congr fun lead => and_congr_right fun _ => ?_
  cases hafter : Text.after? lead name with
  | none =>
    refine iff_of_false (by simp) ?_
    rintro ⟨c, more, heq, -⟩
    rw [Text.after?_eq_some_iff.mpr heq] at hafter
    cases hafter
  | some rest =>
    rw [Text.after?_eq_some_iff.mp hafter]
    simp only [List.append_cancel_left_eq]
    cases rest with
    | nil => simp
    | cons c more => simp

variable {opening : Opening}

theorem Opening.bothTags_write_of_mem (hmem : opening.name.text ∈ neverEmpty) :
    bothTags opening.write = opening.trimmed.startTag ++ opening.endTag .none := by
  have hname : nameAt opening.write =
      some (opening.name.text, opening.assignments ++ opening.space.text) :=
    opening.nameAt_write_eq_some_iff.mpr ⟨hmem, [], (List.append_nil _).symm, rfl, by simp⟩
  rw [bothTags, hname]
  simp only [opening.trimEnd_assignments]
  simp [startTag, endTag, write, trimmed, assignments, Blank.none]

theorem Opening.bothTags_write_of_not_mem (hmem : opening.name.text ∉ neverEmpty)
    (hends : goesOn opening.name.text = false) : bothTags opening.write = opening.emptyTag := by
  have hname : nameAt opening.write = none := by
    rw [Option.eq_none_iff_forall_ne_some]
    rintro ⟨name, behind⟩ hfound
    obtain ⟨hlead, more, hsplit, -, hword⟩ := opening.nameAt_write_eq_some_iff.mp hfound
    cases more with
    | nil =>
      rw [List.append_nil] at hsplit
      exact hmem (hsplit ▸ hlead)
    | cons c more =>
      rw [goesOn_iff.mpr ⟨name, hlead, c, more, hsplit, hword c rfl⟩] at hends
      cases hends
  rw [bothTags, hname]
  rfl

theorem Opening.not_mem_of_goesOn (hends : goesOn opening.name.text = true) :
    opening.name.text ∉ neverEmpty := by
  obtain ⟨lead, hlead, c, more, hsplit, -⟩ := goesOn_iff.mp hends
  intro hmem
  have heq := eq_of_prefix_of_mem_neverEmpty lead hlead _ hmem ⟨c :: more, hsplit.symm⟩
  rw [← heq] at hsplit
  simp at hsplit

theorem count_bracketed {body : Text} (hbody : '<' ∉ body) : (bracketed body).count '<' = 1 := by
  simp [bracketed, List.count_eq_zero.mpr hbody]

/-- A tag whose name is taken for a shorter one is given an end tag. -/
theorem Opening.count_bothTags_write (hends : goesOn opening.name.text = true) :
    (bothTags opening.write).count '<' = 2 := by
  obtain ⟨lead, hlead, c, more, hsplit, hword⟩ := goesOn_iff.mp hends
  have hname := opening.nameAt_write_eq_some_iff.mpr
    ⟨hlead, c :: more, hsplit, rfl, by simpa using hword⟩
  have hlead' : '<' ∉ '/' :: lead := by
    simpa using not_mem_of_mem_neverEmpty hlead (c := '<') (by decide)
  have hwrite := opening.not_mem_write.1
  rw [write, hsplit, List.append_assoc] at hwrite
  rw [bothTags, hname]
  simp only [List.count_append]
  rw [count_bracketed hlead', count_bracketed fun hmem => hwrite ?_]
  exact ((List.prefix_append_right_inj lead).mpr (Text.trimEnd_prefix _)).subset hmem

end Names

section Fragments

/-- The text of a fragment in which each self-closed tag has been looked at. -/
def Fragment.closedUp : Fragment → Text
  | nil => []
  | text t _ rest => t ++ rest.closedUp
  | empty opening rest => bothTags opening.write ++ rest.closedUp
  | element opening inner space rest =>
    opening.startTag ++ (inner.closedUp ++ opening.endTag space) ++ rest.closedUp

theorem Opening.expands_startTag (opening : Opening) :
    Expands opening.startTag opening.startTag :=
  expands_tag opening.not_mem_write opening.getLast?_write

theorem Opening.expands_endTag (opening : Opening) (space : Blank) :
    Expands (opening.endTag space) (opening.endTag space) := by
  apply expands_closing
  rw [List.mem_append, not_or]
  exact ⟨opening.name.not_mem (by decide), space.not_mem (by decide)⟩

theorem Fragment.expands_write (fragment : Fragment) :
    Expands fragment.write fragment.closedUp := by
  induction fragment with
  | nil => exact .nil
  | text t plain rest ih => exact (expands_text fun hmem => (plain _ hmem).1 rfl).append ih
  | empty opening rest ih => exact (expands_emptyTag opening.not_mem_write).append ih
  | element opening inner space rest ihInner ih =>
    exact (opening.expands_startTag.append (ihInner.append (opening.expands_endTag space))).append
      ih

theorem Fragment.expands_closedUp (fragment : Fragment) :
    Expands fragment.closedUp fragment.closedUp := by
  induction fragment with
  | nil => exact .nil
  | text t plain rest ih => exact (expands_text fun hmem => (plain _ hmem).1 rfl).append ih
  | empty opening rest ih =>
    exact (expands_bothTags opening.not_mem_write opening.getLast?_trimEnd_write).append ih
  | element opening inner space rest ihInner ih =>
    exact (opening.expands_startTag.append (ihInner.append (opening.expands_endTag space))).append
      ih

theorem Fragment.write_expanded_empty {opening : Opening}
    (hends : goesOn opening.name.text = false) (rest : Fragment) :
    (empty opening rest).expanded.write = bothTags opening.write ++ rest.expanded.write := by
  rw [expanded]
  split
  · rename_i hmem
    rw [opening.bothTags_write_of_mem (List.contains_iff_mem.mp hmem)]
    rfl
  · rename_i hmem
    rw [Opening.bothTags_write_of_not_mem (mt List.contains_iff_mem.mpr hmem) hends]
    rfl

/-- Where no name goes on, all that is put in is what should be. -/
theorem Fragment.closedUp_eq (fragment : Fragment)
    (hends : ∀ opening ∈ fragment.emptyTags, goesOn opening.name.text = false) :
    fragment.closedUp = fragment.expanded.write := by
  induction fragment with
  | nil => rfl
  | text t plain rest ih => rw [closedUp, expanded, write, ih hends]
  | empty opening rest ih =>
    obtain ⟨hopening, hrest⟩ := List.forall_mem_cons.mp hends
    rw [closedUp, write_expanded_empty hopening, ih hrest]
  | element opening inner space rest ihInner ih =>
    obtain ⟨hinner, hrest⟩ := List.forall_mem_append.mp hends
    rw [closedUp, expanded, write, ihInner hinner, ih hrest]

/-- For each name that goes on, an end tag is put in that should not be. -/
theorem Fragment.count_closedUp (fragment : Fragment) :
    fragment.closedUp.count '<' = fragment.expanded.write.count '<' +
      fragment.emptyTags.countP fun opening => goesOn opening.name.text := by
  induction fragment with
  | nil => rfl
  | text t plain rest ih =>
    rw [closedUp, expanded, write, emptyTags, List.count_append, List.count_append, ih,
      Nat.add_assoc]
  | empty opening rest ih =>
    rw [closedUp, emptyTags, List.countP_cons, List.count_append, ih]
    cases hends : goesOn opening.name.text with
    | true =>
      have hempty : opening.emptyTag.count '<' = 1 :=
        count_bracketed (by simpa using opening.not_mem_write.1)
      have hmem := mt List.contains_iff_mem.mp (Opening.not_mem_of_goesOn hends)
      rw [expanded, if_neg hmem, write, List.count_append, hempty,
        Opening.count_bothTags_write hends, if_pos rfl]
      omega
    | false =>
      rw [write_expanded_empty hends, List.count_append, if_neg Bool.false_ne_true]
      omega
  | element opening inner space rest ihInner ih =>
    rw [closedUp, expanded, write, emptyTags, List.countP_append]
    simp only [List.count_append, ihInner, ih]
    omega

end Fragments

/-- A fragment becomes the one in which the self-closed elements of `neverEmpty` have both tags, and
nothing else is changed, if and only if no self-closed element has a name that goes on behind one of
`neverEmpty` with a character that is no word character. The fragment that is meant has the same
tree. In any case, what has been expanded stays as it is when it is expanded again. -/
theorem expandSelfClosed_write_iff (fragment : Fragment) :
    (expandSelfClosed fragment.write = fragment.expanded.write ↔
        ∀ opening ∈ fragment.emptyTags, goesOn opening.name.text = false) ∧
      fragment.expanded.tree = fragment.tree ∧
      expandSelfClosed (expandSelfClosed fragment.write) = expandSelfClosed fragment.write := by
  rw [fragment.expands_write.eq]
  refine ⟨⟨fun heq => ?_, fragment.closedUp_eq⟩, fragment.tree_expanded,
    fragment.expands_closedUp.eq⟩
  have hcount := fragment.count_closedUp
  rw [heq, Nat.left_eq_add, List.countP_eq_zero] at hcount
  exact fun opening hmem => Bool.eq_false_iff.mpr (hcount opening hmem)

/-- A name that goes on is torn apart: its tags do not fit together. -/
theorem expandSelfClosed_card :
    let card : Opening := ⟨⟨"a-card", by decide, by simp [isNameChar, isSpace]⟩, [],
      List.nodup_nil, .none⟩
    let fragment : Fragment := .empty card .nil
    fragment.write = "<a-card/>" ∧ fragment.expanded.write = "<a-card/>" ∧
      expandSelfClosed "<a-card/>" = "<a-card></a>" :=
  ⟨rfl, rfl, rfl⟩

end Markup

end Stencil
