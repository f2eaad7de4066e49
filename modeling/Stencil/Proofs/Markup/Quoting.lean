import Mathlib.Data.List.DropRight
import Stencil.Proofs.Markup.Attributes
import Stencil.Proofs.Markup.Cut

namespace Stencil.Markup

/-- One space. -/
def Blank.space : Blank := ⟨[' '], List.all_eq_true.mp rfl⟩

section Inversion

theorem exists_blank_append (t : Text) : ∃ lead : Blank, t = lead.text ++ t.dropWhile isSpace :=
  ⟨⟨t.takeWhile isSpace, fun _ => List.mem_takeWhile_imp⟩, List.takeWhile_append_dropWhile.symm⟩

/-- An attribute that was read stands at the front of the text, with its value between quotes. -/
theorem eq_append_of_readAttribute {seen : List RawAttribute} {position : Nat} {t rest : Text}
    {item : RawAttribute} (hread : readAttribute seen position t = .ok (some (item, rest))) :
    ∃ (lead before behind : Blank) (quote : Quote), quote.char ∉ item.written ∧
      t = lead.text ++ (item.key ++ before.text ++ '=' :: behind.text ++
        quote.char :: item.written ++ [quote.char]) ++ rest := by
  obtain ⟨lead, hlead⟩ := exists_blank_append t
  rw [readAttribute] at hread
  split at hread
  · cases hread
  · rename_i first r hfirst
    rw [hfirst] at hlead
    have hkey := List.prefix_iff_eq_append.mp
      (List.takeWhile_prefix (l := r) fun c => c ≠ '=' && !isSpace c)
    simp only [List.length_cons, Nat.add_sub_cancel] at hread
    split at hread
    · rename_i r' hequals
      obtain ⟨before, hbefore⟩ := exists_blank_append
        (r.drop (r.takeWhile fun c => c ≠ '=' && !isSpace c).length)
      rw [hequals] at hbefore
      split at hread
      · cases hread
      · obtain ⟨behind, hbehind⟩ := exists_blank_append r'
        split at hread
        · cases hread
        · rename_i c r'' hopens
          rw [hopens] at hbehind
          split at hread
          · rename_i hquote
            split at hread
            · cases hread
            · rename_i written rest' hcut
              obtain ⟨hclosed, hvalue⟩ := Text.cutFirst_eq_some_iff.mp hcut
              cases hread
              obtain ⟨quote, rfl⟩ : ∃ quote : Quote, quote.char = c := by
                rcases hquote with rfl | rfl
                exacts [⟨.double, rfl⟩, ⟨.single, rfl⟩]
              refine ⟨lead, before, behind, quote, hclosed, ?_⟩
              rw [hbefore, hbehind, hvalue] at hkey
              dsimp only
              generalize (r.takeWhile fun c => c ≠ '=' && !isSpace c) = key at hkey ⊢
              rw [hlead, ← hkey]
              simp
          · cases hread
    · cases hread

theorem isSpace_of_readAttribute {seen : List RawAttribute} {position : Nat} {t : Text}
    (hread : readAttribute seen position t = .ok none) : ∀ c ∈ t, isSpace c = true := by
  rw [← List.dropWhile_eq_nil_iff]
  rw [readAttribute] at hread
  split at hread
  · assumption
  · exfalso
    simp only at hread
    repeat' split at hread
    all_goals cases hread

/-- Reading goes on behind what was read before. -/
theorem prefix_of_readAttributes {fuel : Nat} {seen found : List RawAttribute} {position : Nat}
    {t : Text} (hread : readAttributes fuel seen position t = .ok found) : seen <+: found := by
  induction fuel generalizing seen position t with
  | zero =>
    cases hread
    exact List.prefix_rfl
  | succ fuel ih =>
    rw [readAttributes] at hread
    split at hread
    · cases hread
    · cases hread
      exact List.prefix_rfl
    · exact (List.prefix_append _ _).trans (ih hread)

/-- If only the attributes seen so far are found, nothing but white space is left. -/
theorem isSpace_of_readAttributes {fuel : Nat} {seen : List RawAttribute} {position : Nat}
    {t : Text} (hread : readAttributes (fuel + 1) seen position t = .ok seen) :
    ∀ c ∈ t, isSpace c = true := by
  rw [readAttributes] at hread
  split at hread
  · cases hread
  · rename_i hnone
    exact isSpace_of_readAttribute hnone
  · have hlength := (prefix_of_readAttributes hread).length_le
    rw [List.length_append, List.length_singleton] at hlength
    omega

end Inversion

section Assigned

/-- An attribute as it is put into a tag. -/
def assigned (key value : Text) : Text :=
  ' ' :: key ++ '=' :: '"' :: value ++ ['"']

theorem isAttribute_assigned (key : Name) {value : Text} (hvalue : '"' ∉ value) :
    IsAttribute key.text value (assigned key.text value) := by
  have hread := isAttribute_assignment .space key .none .none .double hvalue
  simpa [assigned, Quote.char, Blank.space, Blank.none] using hread

theorem rdropWhile_append_of_isSpace (front : Text) {c : Char} (hc : isSpace c = false)
    {space : Text} (hspace : ∀ d ∈ space, isSpace d = true) :
    (front ++ c :: space).rdropWhile isSpace = front ++ [c] := by
  rw [List.append_cons, List.rdropWhile, List.reverse_append,
    List.dropWhile_append_of_pos (fun d hd => hspace d (List.mem_reverse.mp hd))]
  simp [hc]

/-- In a text that ends in a double quote and is read as one attribute, that quote ends the value,
and only the one in front of the value stands before it. -/
theorem count_eq_one_of_readAttribute {seen : List RawAttribute} {position : Nat}
    {front rest : Text} {item : RawAttribute} (space : Blank)
    (hread : readAttribute seen position (front ++ '"' :: space.text) = .ok (some (item, rest)))
    (hkey : '"' ∉ item.key) (hrest : ∀ c ∈ rest, isSpace c = true) : front.count '"' = 1 := by
  obtain ⟨lead, before, behind, quote, hclosed, hshape⟩ := eq_append_of_readAttribute hread
  have hends := congrArg (List.rdropWhile isSpace) hshape
  rw [rdropWhile_append_of_isSpace front (by decide) space.spaces, ← List.append_assoc lead.text,
    List.append_assoc _ [quote.char], List.singleton_append,
    rdropWhile_append_of_isSpace _ (by cases quote <;> decide) hrest] at hends
  obtain ⟨hfront, hquote⟩ := List.append_inj' hends rfl
  rw [← (List.cons.inj hquote).1] at hfront hclosed
  have hblank (blank : Blank) : blank.text.count '"' = 0 :=
    List.count_eq_zero_of_not_mem (blank.not_mem (by decide))
  rw [hfront]
  simp [hblank, List.count_eq_zero_of_not_mem hkey,
    List.count_eq_zero_of_not_mem hclosed]

/-- If two attributes are read under the keys they were put under, neither value holds a double
quote. -/
theorem not_mem_of_readAttributes {first last : Name} {value lastValue : Text}
    {seen : List RawAttribute} (hfirst : ∀ other ∈ seen, other.key ≠ first.text) (space : Blank)
    {fuel position : Nat} {found : List RawAttribute}
    (hread : readAttributes (fuel + 3) seen position
      (assigned first.text value ++ (assigned last.text lastValue ++ space.text)) = .ok found)
    (hkeys : found.map RawAttribute.key = seen.map RawAttribute.key ++ [first.text, last.text]) :
    '"' ∉ value ∧ '"' ∉ lastValue := by
  -- the first value ends at the first double quote, be it one of its own
  have hmem : '"' ∈ value ++ ['"'] := by simp
  obtain ⟨written, behind, hends, hwritten⟩ := List.eq_append_cons_of_mem hmem
  have hshape : assigned first.text value ++ (assigned last.text lastValue ++ space.text) =
      assigned first.text written ++
        ((behind ++ (' ' :: last.text ++ '=' :: '"' :: lastValue)) ++ '"' :: space.text) := by
    have hsplit := congrArg (· ++ (assigned last.text lastValue ++ space.text)) hends
    simpa [assigned] using hsplit
  obtain ⟨start, hitem⟩ := isAttribute_assigned first hwritten hfirst position
    ((behind ++ (' ' :: last.text ++ '=' :: '"' :: lastValue)) ++ '"' :: space.text)
  have hlength := congrArg List.length hkeys
  simp only [List.length_map, List.length_append, List.length_cons, List.length_nil] at hlength
  rw [hshape, readAttributes, hitem] at hread
  dsimp only at hread
  rw [readAttributes] at hread
  split at hread
  · cases hread
  · cases hread
    simp at hlength
  · rename_i item rest hnext
    have hfound := (prefix_of_readAttributes hread).eq_of_length (by simp [hlength])
    rw [← hfound] at hread hkeys
    have hlastKey : item.key = last.text := by simpa using hkeys
    have hcount := count_eq_one_of_readAttribute space hnext
      (hlastKey ▸ last.not_mem (by decide)) (isSpace_of_readAttributes hread)
    have hall := congrArg (List.count '"') hends
    simp only [List.count_append, List.count_cons, List.count_nil, beq_self_eq_true, if_true,
      List.count_eq_zero_of_not_mem hwritten] at hcount hall
    constructor
    · rw [← List.count_eq_zero]
      omega
    · rw [← List.count_eq_zero]
      omega

/-- What stands between the angle brackets of a tag that attributes are put into. -/
def assignedBody (name : Name) (items : List (Name × Text)) (space : Blank) : Text :=
  name.text ++ (items.flatMap (fun item => assigned item.1.text item.2) ++ space.text)

variable (name : Name) {items : List (Name × Text)} (lead : List (Name × Text))
  {first last : Name} {value lastValue : Text} (space : Blank)

theorem name_assignedBody : Tag.name ⟨assignedBody name items space⟩ = name.text := by
  refine name.name_tag fun c hc => ?_
  cases items with
  | nil => exact space.spaces c (List.mem_of_mem_head? hc)
  | cons item items =>
    cases hc
    rfl

/-- Values without double quotes are read from a tag as they were put into it. -/
theorem attributes_assignedBody (hvalues : ∀ item ∈ items, '"' ∉ item.2)
    (hdistinct : (items.map fun item => item.1.text).Nodup) :
    Tag.attributes ⟨assignedBody name items space⟩ =
      .ok (items.map fun item => (item.1.text, unescapeValue item.2)) :=
  name.attributes_tag (fun _ => .space) (fun _ _ => List.cons_ne_nil _ _)
    (fun item hitem => isAttribute_assigned item.1 (hvalues item hitem)) hdistinct space

/-- If the attributes of a tag are read under the keys they were put under, neither of the last two
values holds a double quote. Of three values this does not hold: with quotes in the first and in the
last, what stands between them may pass for the second attribute. -/
theorem not_mem_of_attributes (hlead : ∀ item ∈ lead, '"' ∉ item.2)
    (hdistinct : ((lead ++ [(first, value), (last, lastValue)]).map fun item =>
      item.1.text).Nodup) {attributes : List (Text × Text)}
    (hread : Tag.attributes
      ⟨assignedBody name (lead ++ [(first, value), (last, lastValue)]) space⟩ = .ok attributes)
    (hkeys : attributes.map Prod.fst =
      (lead ++ [(first, value), (last, lastValue)]).map fun item => item.1.text) :
    '"' ∉ value ∧ '"' ∉ lastValue := by
  let pair := assigned first.text value ++ (assigned last.text lastValue ++ space.text)
  have hshape : assignedBody name (lead ++ [(first, value), (last, lastValue)]) space =
      name.text ++ (lead.flatMap (fun item => assigned item.1.text item.2) ++ pair) := by
    simp [assignedBody, pair]
  have hhead : ∀ c ∈ (lead.flatMap (fun item => assigned item.1.text item.2) ++ pair).head?,
      isSpace c = true := by
    intro c hc
    cases lead <;> cases hc <;> decide
  have hfuel : lead.length + 3 ≤
      (lead.flatMap (fun item => assigned item.1.text item.2) ++ pair).length := by
    have hlength : lead.length ≤ (lead.flatMap fun item => assigned item.1.text item.2).length :=
      length_le_length_flatMap fun item _ => by simp [assigned]
    simp only [pair, assigned, List.length_append, List.length_cons] at hlength ⊢
    omega
  obtain ⟨fuel, hlength⟩ := Nat.exists_eq_add_of_le' hfuel
  rw [List.map_append, List.nodup_append] at hdistinct
  have hdistinct' : (([] : List RawAttribute).map RawAttribute.key ++
      lead.map fun item => item.1.text).Nodup := hdistinct.1
  obtain ⟨seen, position, hrow, hseen⟩ := readAttributes_flatMap
    (fun item hitem => isAttribute_assigned item.1 (hlead item hitem)) hdistinct' (fuel + 3)
    (Text.bytes name.text) pair
  have hseenKeys : seen.map RawAttribute.key = lead.map fun item => item.1.text := by
    simpa [Function.comp_def] using congrArg (List.map Prod.fst) hseen
  have hfresh : ∀ other ∈ seen, other.key ≠ first.text := by
    intro other hother
    have hmem := List.mem_map_of_mem (f := RawAttribute.key) hother
    rw [hseenKeys] at hmem
    exact hdistinct.2.2 _ hmem _ (by simp)
  rw [hshape, Tag.attributes, name.name_tag hhead, name.rest_tag hhead, hlength,
    show fuel + (lead.length + 3) = fuel + 3 + lead.length by omega, hrow] at hread
  cases hfound : readAttributes (fuel + 3) ([] ++ seen) position pair with
  | error fault =>
    rw [hfound] at hread
    cases hread
  | ok found =>
    rw [hfound] at hread
    cases hread
    refine not_mem_of_readAttributes hfresh space hfound ?_
    simpa [hseenKeys, Function.comp_def] using hkeys

end Assigned

section Tags

theorem InTag.assigned (key : Name) {value : Text} (hvalue : '"' ∉ value) :
    InTag (assigned key.text value) := by
  have hkey : InTag ([' '] ++ key.text ++ ['=']) :=
    ((InTag.of_forall (by simp)).append (.name key)).append (.of_forall (by simp))
  have hwhole := hkey.append (.quoted .double hvalue)
  simpa [Markup.assigned, Quote.char] using hwhole

theorem Token.eq_append_of_tagBody {quote : Option Char} {r body : Text}
    (hbody : tagBody quote r = .ok body) : ∃ rest, r = body ++ '>' :: rest := by
  induction r generalizing quote body with
  | nil => cases hbody
  | cons c r ih =>
    have hgoes : ∀ quote', (tagBody quote' r).map (c :: ·) = .ok body →
        ∃ rest, c :: r = body ++ '>' :: rest := by
      intro quote' hrest
      cases hr : tagBody quote' r with
      | error cause =>
        rw [hr] at hrest
        cases hrest
      | ok body' =>
        rw [hr] at hrest
        cases hrest
        obtain ⟨rest, hshape⟩ := ih hr
        exact ⟨rest, by rw [hshape, List.cons_append]⟩
    rw [tagBody.eq_def] at hbody
    dsimp only at hbody
    split at hbody
    · split at hbody
      · rename_i hends
        cases hbody
        exact ⟨r, by rw [hends, List.nil_append]⟩
      · exact hgoes _ hbody
    · exact hgoes _ hbody

/-- What is one tag ends in the angle bracket that closes it. -/
theorem IsToken.exists_body {kind : TokenKind} {c : Char} {r : Text}
    (hfirst : c ≠ '/' ∧ c ≠ '!' ∧ c ≠ '?') (htoken : IsToken kind ('<' :: c :: r)) :
    ∃ body, c :: r = body ++ ['>'] ∧
      kind = if body.getLast? = some '/' then .emptyTag ⟨body.dropLast⟩ else .startTag ⟨body⟩ := by
  obtain ⟨_, _, heq, hread⟩ := htoken.exists_read
  obtain ⟨rfl, rfl⟩ := List.cons.inj heq
  have htag := hread 'a' []
  rw [List.cons_append, Token.read_tag hfirst.2, Token.readTag] at htag
  cases hbody : Token.tagBody none (c :: (r ++ ['a'])) with
  | error cause =>
    rw [hbody] at htag
    cases htag
  | ok body =>
    obtain ⟨rest, hshape⟩ := Token.eq_append_of_tagBody hbody
    rw [hbody] at htag
    obtain ⟨hkind, hlength⟩ := Prod.mk.inj (Except.ok.inj htag)
    have hends : c :: r ++ ['a'] = body ++ ['>'] ++ rest := by simpa using hshape
    refine ⟨body, (List.append_inj hends (by simp [hlength])).1, ?_⟩
    rw [← hkind]
    split
    · exact absurd (List.cons.inj hshape).1 hfirst.1
    · rfl

variable {name : Name} {items : List (Name × Text)} {space : Blank}

theorem inTag_assignedBody (hvalues : ∀ item ∈ items, '"' ∉ item.2) :
    InTag (assignedBody name items space) := by
  refine .append (.name name) (.append ?_ (.blank space))
  induction items with
  | nil => exact .nil
  | cons item items ih =>
    obtain ⟨hvalue, hvalues⟩ := List.forall_mem_cons.mp hvalues
    exact .append (.assigned item.1 hvalue) (ih hvalues)

theorem head?_assignedBody (name : Name) (items : List (Name × Text)) (space : Blank) :
    ∃ c t, assignedBody name items space = c :: t ∧ c ≠ '/' ∧ c ≠ '!' ∧ c ≠ '?' := by
  obtain ⟨c, t, hname⟩ := List.exists_cons_of_ne_nil name.ne_nil
  have hchar := name.nameChars c (by simp [hname])
  refine ⟨c, _, by rw [assignedBody, hname, List.cons_append], ?_, ?_, ?_⟩ <;> rintro rfl
  all_goals exact absurd hchar (by decide)

theorem getLast?_assignedBody (name : Name) {items : List (Name × Text)} (hsome : items ≠ []) :
    (assignedBody name items .none).getLast? = some '"' := by
  obtain ⟨front, item, rfl⟩ := (List.eq_nil_or_concat' items).resolve_left hsome
  have hshape : assignedBody name (front ++ [item]) .none =
      name.text ++ front.flatMap (fun item => assigned item.1.text item.2) ++
        ' ' :: item.1.text ++ '=' :: '"' :: item.2 ++ ['"'] := by
    simp [assignedBody, assigned, Blank.none]
  rw [hshape, List.getLast?_concat]

theorem isToken_assignedBody_emptyTag (hvalues : ∀ item ∈ items, '"' ∉ item.2) :
    IsToken (.emptyTag ⟨assignedBody name items space⟩)
      ('<' :: (assignedBody name items space ++ ['/']) ++ ['>']) := by
  obtain ⟨c, t, hbody, hfirst⟩ := head?_assignedBody name items space
  have hslash : assignedBody name items space ++ ['/'] = c :: (t ++ ['/']) := by
    rw [hbody, List.cons_append]
  have htag := isToken_tag hslash hfirst
    ((inTag_assignedBody hvalues).append (.of_forall (by simp)))
  rwa [if_pos List.getLast?_concat, List.dropLast_concat] at htag

theorem isToken_assignedBody_startTag (hvalues : ∀ item ∈ items, '"' ∉ item.2)
    (hlast : (assignedBody name items space).getLast? ≠ some '/') :
    IsToken (.startTag ⟨assignedBody name items space⟩)
      ('<' :: assignedBody name items space ++ ['>']) := by
  obtain ⟨c, t, hbody, hfirst⟩ := head?_assignedBody name items space
  have htag := isToken_tag hbody hfirst (inTag_assignedBody hvalues)
  rwa [if_neg hlast] at htag

/-- If a tag that attributes are put into is read as one tag, it is read to its end. -/
theorem eq_of_isToken_emptyTag {tag : Tag} (htoken : IsToken (.emptyTag tag)
    ('<' :: (assignedBody name items space ++ ['/']) ++ ['>'])) :
    tag = ⟨assignedBody name items space⟩ := by
  obtain ⟨c, t, hbody, hfirst⟩ := head?_assignedBody name items space
  rw [hbody] at htoken
  obtain ⟨body, hshape, hkind⟩ := htoken.exists_body hfirst
  have hends : c :: (t ++ ['/']) ++ ['>'] = body ++ ['>'] := hshape
  obtain ⟨rfl, -⟩ := List.append_inj' hends rfl
  rw [← List.cons_append, if_pos List.getLast?_concat, List.dropLast_concat, ← hbody] at hkind
  exact TokenKind.emptyTag.inj hkind

theorem eq_of_isToken_startTag {tag : Tag} (htoken : IsToken (.startTag tag)
    ('<' :: assignedBody name items space ++ ['>'])) : tag = ⟨assignedBody name items space⟩ := by
  obtain ⟨c, t, hbody, hfirst⟩ := head?_assignedBody name items space
  rw [hbody] at htoken
  obtain ⟨body, hshape, hkind⟩ := htoken.exists_body hfirst
  have hends : c :: t ++ ['>'] = body ++ ['>'] := hshape
  obtain ⟨rfl, -⟩ := List.append_inj' hends rfl
  split at hkind
  · cases hkind
  · rw [hbody]
    exact TokenKind.startTag.inj hkind

end Tags

end Stencil.Markup
