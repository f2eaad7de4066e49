import Mathlib.Data.List.TakeWhile
import Stencil.Proofs.Markup.Reading
import Stencil.Proofs.Text.Cut

namespace Stencil.Markup

/-- A reference to a predefined character is read as that character. -/
theorem unescapeFrom_reference (entity : Predefined) (rest : Text) :
    unescapeFrom 0 ((ValueChar.reference entity).write ++ rest) =
      (unescapeFrom 0 rest).map (entity.char :: ·) := by
  cases entity <;> rfl

theorem unescapeFrom_literal {c : Char} (hc : c ≠ '&') (rest : Text) :
    unescapeFrom 0 ((ValueChar.literal c).write ++ rest) =
      (unescapeFrom 0 rest).map (c :: ·) := by
  simp [ValueChar.write, unescapeFrom, hc]

theorem Value.unescape_written (value : Value) : unescapeValue value.written = value.meaning := by
  have hread : unescapeFrom 0 value.written = some value.meaning := by
    obtain ⟨quote, chars, hliterals⟩ := value
    induction chars with
    | nil => rfl
    | cons first chars ih =>
      have hrest := ih fun c hc => hliterals c (List.mem_cons_of_mem _ hc)
      change unescapeFrom 0 (first.write ++ chars.flatMap ValueChar.write) =
        some (first.meaning :: chars.map ValueChar.meaning)
      cases first with
      | literal c =>
        rw [unescapeFrom_literal (hliterals c List.mem_cons_self).2.1]
        exact congrArg (Option.map _) hrest
      | reference entity =>
        rw [unescapeFrom_reference]
        exact congrArg (Option.map _) hrest
  rw [unescapeValue, hread]
  rfl

/-- A name ends where white space begins. -/
theorem Name.name_tag (name : Name) {t : Text} (ht : ∀ c ∈ t.head?, isSpace c = true) :
    Tag.name ⟨name.text ++ t⟩ = name.text := by
  rw [Tag.name]
  apply Text.takeWhile_append_of_stop name.not_space
  exact fun c hc => by simp [ht c hc]

theorem Name.rest_tag (name : Name) {t : Text} (ht : ∀ c ∈ t.head?, isSpace c = true) :
    Tag.rest ⟨name.text ++ t⟩ = t := by
  rw [Tag.rest]
  apply Text.dropWhile_append_of_stop name.not_space
  exact fun c hc => by simp [ht c hc]

theorem Head.name_tag (head : Head) : Tag.name ⟨head.write⟩ = head.name.text :=
  head.name.name_tag head.isSpace_head?_rest

/-- A text that is read as an attribute, whatever stands behind it, if its key was not used
before. -/
def IsAttribute (key written source : Text) : Prop :=
  ∀ ⦃seen : List RawAttribute⦄, (∀ other ∈ seen, other.key ≠ key) → ∀ position rest, ∃ start,
    readAttribute seen position (source ++ rest) = .ok (some (⟨key, start, written⟩, rest))

/-- What is assigned to a key is read up to the quote that ends it. -/
theorem isAttribute_assignment (lead : Blank) (key : Name) (before behind : Blank) (quote : Quote)
    {written : Text} (hwritten : quote.char ∉ written) :
    IsAttribute key.text written (lead.text ++ (key.text ++ before.text ++
      '=' :: behind.text ++ quote.char :: written ++ [quote.char])) := by
  intro seen hfresh position rest
  obtain ⟨c, t, hkey⟩ := List.exists_cons_of_ne_nil key.ne_nil
  let value := behind.text ++ quote.char :: (written ++ quote.char :: rest)
  have hshape : lead.text ++ (key.text ++ before.text ++ '=' :: behind.text ++
      quote.char :: written ++ [quote.char]) ++ rest =
      lead.text ++ c :: (t ++ (before.text ++ '=' :: value)) := by
    simp [hkey, value]
  have hchars : ∀ d ∈ c :: t, (d ≠ '=' && !isSpace d) = true := by
    intro d hd
    rw [← hkey] at hd
    have hne : d ≠ '=' := fun heq => key.not_mem (by decide) (heq ▸ hd)
    simp [hne, key.not_space d hd]
  have hfirst : isSpace c = false := by
    simpa using key.not_space c (hkey ▸ List.mem_cons_self)
  have hquote : isSpace quote.char = false ∧ (quote.char = '"' ∨ quote.char = '\'') := by
    cases quote <;> decide
  -- the parts in the order in which they are read
  have hlead : (lead.text ++ c :: (t ++ (before.text ++ '=' :: value))).dropWhile isSpace =
      c :: (t ++ (before.text ++ '=' :: value)) :=
    Text.dropWhile_append_of_stop lead.spaces (by simpa using hfirst)
  have htake : (t ++ (before.text ++ '=' :: value)).takeWhile
      (fun d => d ≠ '=' && !isSpace d) = t := by
    apply Text.takeWhile_append_of_stop fun d hd => hchars d (List.mem_cons_of_mem c hd)
    intro d hd
    cases hbefore : before.text with
    | nil =>
      rw [hbefore] at hd
      cases hd
      rfl
    | cons e more =>
      rw [hbefore] at hd
      have he : e = d := Option.some.inj hd
      simp [before.spaces d (by simp [hbefore, he])]
  have hequals : (before.text ++ '=' :: value).dropWhile isSpace = '=' :: value :=
    Text.dropWhile_append_of_stop before.spaces (by simp; decide)
  have hvalue : value.dropWhile isSpace = quote.char :: (written ++ quote.char :: rest) :=
    Text.dropWhile_append_of_stop behind.spaces (by simpa using hquote.1)
  have hfind : seen.find? (fun other => other.key = c :: t) = none := by
    rw [List.find?_eq_none]
    intro other hother
    rw [← hkey]
    simpa using hfresh other hother
  have hcut := Text.cutFirst_append hwritten rest
  rw [hshape, readAttribute, hlead]
  simp only [htake, List.length_cons, Nat.add_sub_cancel, List.drop_left, hequals, hfind, hvalue,
    hquote.2, if_true]
  rw [hcut, hkey]
  exact ⟨_, rfl⟩

/-- An attribute is read as it was written. -/
theorem Attribute.isAttribute_write (item : Attribute) :
    IsAttribute item.key.text item.value.written item.write :=
  isAttribute_assignment item.lead item.key item.before item.behind item.value.quote
    item.value.quote_not_mem_written

theorem readAttribute_blank (space : Blank) (seen : List RawAttribute) (position : Nat) :
    readAttribute seen position space.text = .ok none := by
  have hnothing : space.text.dropWhile isSpace = [] :=
    List.dropWhile_eq_nil_iff.mpr space.spaces
  rw [readAttribute, hnothing]

theorem readAttributes_blank (space : Blank) (fuel : Nat) (seen : List RawAttribute)
    (position : Nat) : readAttributes fuel seen position space.text = .ok seen := by
  cases fuel with
  | zero => rfl
  | succ fuel => rw [readAttributes, readAttribute_blank]

theorem length_le_length_flatMap {α : Type} {write : α → Text} {items : List α}
    (hsome : ∀ item ∈ items, write item ≠ []) : items.length ≤ (items.flatMap write).length := by
  induction items with
  | nil => exact Nat.le_refl _
  | cons item items ih =>
    obtain ⟨hitem, hsome⟩ := List.forall_mem_cons.mp hsome
    have hfirst := List.length_pos_iff.mpr hitem
    have hrest := ih hsome
    rw [List.flatMap_cons, List.length_append, List.length_cons]
    omega

/-- Attributes of distinct keys are read one after another. -/
theorem readAttributes_flatMap {α : Type} {write key written : α → Text} {items : List α}
    (hread : ∀ item ∈ items, IsAttribute (key item) (written item) (write item))
    {seen : List RawAttribute} (hdistinct : (seen.map RawAttribute.key ++ items.map key).Nodup)
    (fuel position : Nat) (t : Text) :
    ∃ found position',
      readAttributes (fuel + items.length) seen position (items.flatMap write ++ t) =
        readAttributes fuel (seen ++ found) position' t ∧
      found.map (fun item => (item.key, item.written)) =
        items.map fun item => (key item, written item) := by
  induction items generalizing seen position with
  | nil => exact ⟨[], position, by rw [List.append_nil]; rfl, rfl⟩
  | cons item items ih =>
    obtain ⟨hfirst, hread⟩ := List.forall_mem_cons.mp hread
    have hfresh : ∀ other ∈ seen, other.key ≠ key item := by
      intro other hother heq
      have hapart := (List.nodup_append.mp hdistinct).2.2
      exact hapart _ (List.mem_map_of_mem hother) _ List.mem_cons_self heq
    obtain ⟨start, hitem⟩ := hfirst hfresh position (items.flatMap write ++ t)
    let first : RawAttribute := ⟨key item, start, written item⟩
    have hdistinct' : ((seen ++ [first]).map RawAttribute.key ++ items.map key).Nodup := by
      simpa [first] using hdistinct
    obtain ⟨found, position', hrest, hfound⟩ := ih hread hdistinct' _
    refine ⟨first :: found, position', ?_, ?_⟩
    · rw [List.append_assoc, List.singleton_append] at hrest
      rw [List.flatMap_cons, List.append_assoc, List.length_cons, ← Nat.add_assoc, readAttributes,
        hitem]
      exact hrest
    · rw [List.map_cons, List.map_cons, hfound]

/-- The attributes of a tag are those that are written behind its name, each with white space in
front of it. -/
theorem Name.attributes_tag (name : Name) {α : Type} (lead : α → Blank)
    {rest key written : α → Text} {items : List α} (hlead : ∀ item ∈ items, (lead item).text ≠ [])
    (hread : ∀ item ∈ items,
      IsAttribute (key item) (written item) ((lead item).text ++ rest item))
    (hdistinct : (items.map key).Nodup) (space : Blank) :
    Tag.attributes ⟨name.text ++
        (items.flatMap (fun item => (lead item).text ++ rest item) ++ space.text)⟩ =
      .ok (items.map fun item => (key item, unescapeValue (written item))) := by
  have hhead : ∀ c ∈ (items.flatMap (fun item => (lead item).text ++ rest item) ++
      space.text).head?, isSpace c = true :=
    isSpace_head?_flatMap hlead space
  have hfuel : items.length ≤
      (items.flatMap (fun item => (lead item).text ++ rest item) ++ space.text).length := by
    rw [List.length_append]
    refine Nat.le_add_right_of_le (length_le_length_flatMap fun item hitem => ?_)
    exact List.append_ne_nil_of_left_ne_nil (hlead item hitem) _
  obtain ⟨fuel, hlength⟩ := Nat.exists_eq_add_of_le' hfuel
  have hdistinct' : (([] : List RawAttribute).map RawAttribute.key ++ items.map key).Nodup :=
    hdistinct
  obtain ⟨found, position', hrow, hfound⟩ := readAttributes_flatMap hread hdistinct' fuel
    (Text.bytes name.text) space.text
  rw [Tag.attributes, name.name_tag hhead, name.rest_tag hhead, hlength, hrow, List.nil_append,
    readAttributes_blank]
  have hpairs := congrArg (List.map (Prod.map id unescapeValue)) hfound
  rw [List.map_map, List.map_map] at hpairs
  exact congrArg Except.ok hpairs

/-- The attributes of a tag are those that were written. -/
theorem Head.attributes_tag (head : Head) : Tag.attributes ⟨head.write⟩ = .ok head.meanings := by
  have hattributes := head.name.attributes_tag Attribute.lead (fun item _ => item.lead_ne_nil)
    (fun item _ => item.isAttribute_write) head.distinct head.space
  refine hattributes.trans (congrArg Except.ok (List.map_congr_left fun item _ => ?_))
  exact congrArg (Prod.mk item.key.text) item.value.unescape_written

end Stencil.Markup
