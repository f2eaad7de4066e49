import Stencil.Markup.Tags
import Stencil.Proofs.Text.Gaps

namespace Stencil.Markup

/-- A text in which no tag stands: behind a `<` there is no `>`. -/
def Tagless (t : Text) : Prop :=
  ∀ front behind, t = front ++ '<' :: behind → '>' ∉ behind

/-- A text in which no tag is left open: behind every `<` there is a `>`. -/
def TagsClosed (t : Text) : Prop :=
  ∀ front behind, t = front ++ '<' :: behind → '>' ∈ behind

theorem forall_behind_cons_iff {p : Text → Prop} {c : Char} {t : Text} :
    (∀ front behind, c :: t = front ++ '<' :: behind → p behind) ↔
      (c = '<' → p t) ∧ ∀ front behind, t = front ++ '<' :: behind → p behind := by
  constructor
  · intro hall
    refine ⟨fun heq => hall [] t (by rw [heq]; rfl), fun front behind hsplit => ?_⟩
    exact hall (c :: front) behind (by rw [hsplit]; rfl)
  · rintro ⟨hfirst, hlater⟩ front behind hsplit
    cases front with
    | nil =>
      obtain ⟨rfl, rfl⟩ := List.cons.inj hsplit
      exact hfirst rfl
    | cons d front => exact hlater front behind (List.cons.inj hsplit).2

theorem tagless_nil : Tagless [] := fun front behind hsplit => by simp at hsplit

theorem tagless_cons_iff {c : Char} {t : Text} :
    Tagless (c :: t) ↔ (c = '<' → '>' ∉ t) ∧ Tagless t :=
  forall_behind_cons_iff (p := ('>' ∉ ·))

theorem tagsClosed_nil : TagsClosed [] := fun front behind hsplit => by simp at hsplit

theorem tagsClosed_cons_iff {c : Char} {t : Text} :
    TagsClosed (c :: t) ↔ (c = '<' → '>' ∈ t) ∧ TagsClosed t :=
  forall_behind_cons_iff (p := ('>' ∈ ·))

theorem TagsClosed.of_append {a t : Text} (ht : TagsClosed (a ++ t)) : TagsClosed t := by
  intro front behind hsplit
  exact ht (a ++ front) behind (by rw [hsplit, List.append_assoc])

instance decidableTagsClosed : DecidablePred TagsClosed
  | [] => isTrue tagsClosed_nil
  | _ :: t =>
    have := decidableTagsClosed t
    decidable_of_iff' _ tagsClosed_cons_iff

section Reading

/-- A tag with the given text between its brackets. -/
def written (body : Text) : Text :=
  '<' :: (body ++ ['>'])

theorem tag_eq_some_iff {t b : Text} {more : Nat} :
    tag t = some (b, more) ↔
      ∃ body rest, '>' ∉ body ∧ t = written body ++ rest ∧ b = [] ∧ more = body.length + 1 := by
  simp only [tag, Text.enclosed_eq_some_iff, written, List.cons_append, List.nil_append,
    List.append_assoc, List.length_singleton, Nat.add_comm 1]

theorem tag_cons_eq_none_iff {c : Char} {r : Text} :
    tag (c :: r) = none ↔ (c = '<' → '>' ∉ r) := by
  rw [Option.eq_none_iff_forall_ne_some]
  constructor
  · rintro hnone rfl hmem
    obtain ⟨body, rest, rfl, hbody⟩ := List.eq_append_cons_of_mem hmem
    apply hnone ([], body.length + 1)
    exact tag_eq_some_iff.mpr ⟨body, rest, hbody, by simp [written], rfl, rfl⟩
  · rintro hfree ⟨b, more⟩ hsome
    obtain ⟨body, rest, -, hsplit, -, -⟩ := tag_eq_some_iff.mp hsome
    obtain ⟨rfl, rfl⟩ := List.cons.inj hsplit
    exact hfree rfl (by simp)

/-- Markup is read either one character at a time or one tag at a time. -/
theorem tag_induction {P : Text → Prop} (nil : P [])
    (char : ∀ c r, (c = '<' → '>' ∉ r) → P r → P (c :: r))
    (tag : ∀ body rest, '>' ∉ body → P rest → P (written body ++ rest)) : ∀ t, P t := by
  apply Text.pieces_induction Markup.tag nil
  · intro c r hnone ih
    exact char c r (tag_cons_eq_none_iff.mp hnone) ih
  · intro c r b more hsome ih
    obtain ⟨body, rest, hbody, hsplit, -, rfl⟩ := tag_eq_some_iff.mp hsome
    rw [hsplit]
    apply tag body rest hbody
    have hr : r = body ++ ['>'] ++ rest := (List.cons.inj hsplit).2
    rwa [hr, List.drop_left' (by simp)] at ih

theorem stripTags_cons {c : Char} {r : Text} (hfree : c = '<' → '>' ∉ r) :
    stripTags (c :: r) = c :: stripTags r := by
  rw [stripTags, Text.replaceMatches, Text.pieces_cons_of_none (tag_cons_eq_none_iff.mpr hfree)]
  rfl

theorem stripTags_written_append {body : Text} (hbody : '>' ∉ body) (rest : Text) :
    stripTags (written body ++ rest) = stripTags rest := by
  have hlength : (written body).length = body.length + 1 + 1 := by simp [written]
  exact Text.replaceMatches_append_of_match hlength
    (tag_eq_some_iff.mpr ⟨body, rest, hbody, rfl, rfl, rfl⟩)

/-- Text without tags stays as it is. -/
theorem stripTags_append_of_tagless {a : Text} (ha : '<' ∉ a) (t : Text) :
    stripTags (a ++ t) = a ++ stripTags t := by
  induction a with
  | nil => rfl
  | cons c a ih =>
    obtain ⟨hne, ha⟩ := not_or.mp (mt List.mem_cons.mpr ha)
    rw [List.cons_append, stripTags_cons fun heq => absurd heq.symm hne, ih ha, List.cons_append]

theorem stripTags_eq_self {t : Text} (ht : Tagless t) : stripTags t = t := by
  induction t with
  | nil => rfl
  | cons c t ih =>
    obtain ⟨hfree, ht⟩ := tagless_cons_iff.mp ht
    rw [stripTags_cons hfree, ih ht]

/-- What is left stood there before, in the same order. -/
theorem stripTags_sublist (t : Text) : (stripTags t).Sublist t := by
  induction t using tag_induction with
  | nil => exact List.Sublist.refl []
  | char c r hfree ih =>
    rw [stripTags_cons hfree]
    exact ih.cons_cons c
  | tag body rest hbody ih =>
    rw [stripTags_written_append hbody]
    exact ih.trans (List.sublist_append_right _ _)

theorem tagless_stripTags (t : Text) : Tagless (stripTags t) := by
  induction t using tag_induction with
  | nil => exact tagless_nil
  | char c r hfree ih =>
    rw [stripTags_cons hfree]
    exact tagless_cons_iff.mpr ⟨fun heq hmem => hfree heq ((stripTags_sublist r).subset hmem), ih⟩
  | tag body rest hbody ih =>
    rw [stripTags_written_append hbody]
    exact ih

/-- Behind a text that leaves no tag open, tags are found as if it did not stand there. -/
theorem stripTags_append {a : Text} (ha : TagsClosed a) (b : Text) :
    stripTags (a ++ b) = stripTags a ++ stripTags b := by
  induction a using tag_induction with
  | nil => rfl
  | char c r hfree ih =>
    obtain ⟨hfirst, hlater⟩ := tagsClosed_cons_iff.mp ha
    have hne : c ≠ '<' := fun heq => hfree heq (hfirst heq)
    rw [List.cons_append, stripTags_cons fun heq => absurd heq hne, stripTags_cons hfree, ih hlater,
      List.cons_append]
  | tag body rest hbody ih =>
    rw [List.append_assoc, stripTags_written_append hbody, stripTags_written_append hbody,
      ih ha.of_append]

end Reading

section Segments

/-- Markup cut at its tags. A tag begins at the first `<` behind the tag before it, and ends at the
next `>`; in the last text no tag stands any more. -/
inductive Segments
  | last (text : Text) (htext : Tagless text)
  | tag (text body : Text) (htext : '<' ∉ text) (hbody : '>' ∉ body) (rest : Segments)

namespace Segments

/-- The markup that was cut. -/
def write : Segments → Text
  | last text _ => text
  | tag text body _ _ rest => text ++ (written body ++ rest.write)

/-- The texts between the tags, put together. -/
def texts : Segments → Text
  | last text _ => text
  | tag text _ _ _ rest => text ++ rest.texts

/-- Puts a character in front. -/
def cons (c : Char) (segments : Segments) (hfree : c = '<' → '>' ∉ segments.write) : Segments :=
  match segments with
  | last text htext => last (c :: text) (tagless_cons_iff.mpr ⟨hfree, htext⟩)
  | tag text body htext hbody rest =>
    tag (c :: text) body
      (by
        have hne : c ≠ '<' := fun heq => hfree heq (by simp [write, written])
        simp [htext, Ne.symm hne])
      hbody rest

theorem write_cons {c : Char} (segments : Segments) (hfree : c = '<' → '>' ∉ segments.write) :
    (segments.cons c hfree).write = c :: segments.write := by
  cases segments <;> rfl

theorem exists_write_eq (t : Text) : ∃ segments : Segments, segments.write = t := by
  induction t using tag_induction with
  | nil => exact ⟨last [] tagless_nil, rfl⟩
  | char c r hfree ih =>
    obtain ⟨segments, rfl⟩ := ih
    exact ⟨segments.cons c hfree, segments.write_cons hfree⟩
  | tag body rest hbody ih =>
    obtain ⟨segments, rfl⟩ := ih
    exact ⟨tag [] body (by simp) hbody segments, rfl⟩

theorem not_tagless_write_tag (text body : Text) (rest : Text) :
    ¬ Tagless (text ++ (written body ++ rest)) := by
  intro htext
  exact htext text (body ++ '>' :: rest) (by simp [written]) (by simp)

/-- There is one way to cut markup at its tags. -/
theorem write_injective {a b : Segments} (heq : a.write = b.write) : a = b := by
  induction a generalizing b with
  | last text htext =>
    cases b with
    | last text' htext' =>
      have : text = text' := heq
      subst this
      rfl
    | tag text' body htext' hbody rest =>
      have htagless : Tagless (Segments.tag text' body htext' hbody rest).write := heq ▸ htext
      exact absurd htagless (not_tagless_write_tag _ _ _)
  | tag text body htext hbody rest ih =>
    cases b with
    | last text' htext' =>
      have htagless : Tagless (Segments.tag text body htext hbody rest).write := heq ▸ htext'
      exact absurd htagless (not_tagless_write_tag _ _ _)
    | tag text' body' htext' hbody' rest' =>
      have hcuts : text ++ '<' :: (body ++ '>' :: rest.write) =
          text' ++ '<' :: (body' ++ '>' :: rest'.write) := by
        simpa [write, written] using heq
      obtain ⟨rfl, htails⟩ := Text.append_cons_inj htext htext' hcuts
      obtain ⟨rfl, hrests⟩ := Text.append_cons_inj hbody hbody' htails
      rw [ih hrests]

theorem stripTags_write (segments : Segments) : stripTags segments.write = segments.texts := by
  induction segments with
  | last text htext => exact stripTags_eq_self htext
  | tag text body htext hbody rest ih =>
    rw [write, stripTags_append_of_tagless htext, stripTags_written_append hbody, ih, texts]

end Segments

end Segments

end Stencil.Markup
