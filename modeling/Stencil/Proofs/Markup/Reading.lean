import Stencil.Proofs.Markup.Written
import Stencil.Proofs.Text.Parts

namespace Stencil.Markup

namespace Token

theorem ofTextFrom_eq_ofText_drop (skip : Nat) (t : Text) :
    ofTextFrom skip t = ofText (t.drop skip) := by
  induction skip generalizing t with
  | zero => rfl
  | succ skip ih =>
    cases t with
    | nil => rfl
    | cons c r => exact ih r

theorem ofText_cons_of_ok {c : Char} {r : Text} {kind : TokenKind} {more : Nat}
    (hread : read c r = .ok (kind, more)) :
    ofText (c :: r) = ⟨kind, c :: r.take more⟩ :: ofText (r.drop more) := by
  rw [← ofTextFrom_eq_ofText_drop]
  simp only [ofText, ofTextFrom, hread]

theorem ofText_append_of_read {c : Char} {source rest : Text} {kind : TokenKind}
    (hread : read c (source ++ rest) = .ok (kind, source.length)) :
    ofText (c :: source ++ rest) = ⟨kind, c :: source⟩ :: ofText rest := by
  rw [List.cons_append, ofText_cons_of_ok hread, List.take_left, List.drop_left]

/-- Whether text goes on with a character. -/
def isPlain (c : Char) : Bool :=
  c ≠ '<' && c ≠ '&'

theorem read_of_isPlain {c : Char} (hplain : isPlain c = true) (r : Text) :
    read c r = .ok (.text, (r.takeWhile isPlain).length) := by
  have hne : c ≠ '<' ∧ c ≠ '&' := by simpa [isPlain] using hplain
  simp only [read, if_neg hne.1, if_neg hne.2]
  rfl

/-- Plain text is read up to where it ends, be it that the text behind it goes on. -/
theorem ofText_cons_of_plain {c : Char} (hplain : isPlain c = true) (r : Text) :
    ofText (c :: r) = ⟨.text, c :: r.takeWhile isPlain⟩ :: ofText (r.dropWhile isPlain) := by
  have hread : read c (r.takeWhile isPlain ++ r.dropWhile isPlain) =
      .ok (.text, (r.takeWhile isPlain).length) := by
    rw [List.takeWhile_append_dropWhile]
    exact read_of_isPlain hplain r
  have htoken := ofText_append_of_read hread
  rwa [List.cons_append, List.takeWhile_append_dropWhile] at htoken

end Token

/-- A text that is read as one token, whatever stands behind it. -/
def IsToken (kind : TokenKind) (source : Text) : Prop :=
  ∀ rest, Token.ofText (source ++ rest) = ⟨kind, source⟩ :: Token.ofText rest

namespace Token

theorem readEnclosed_append (kind : TokenKind) (fault : ReadFault) (lead closing : Text) {c : Char}
    {body : Text} (hclosing : c ∉ closing) (hbody : ¬ closing ++ [c] <:+: body) (rest : Text) :
    readEnclosed kind fault lead (closing ++ [c]) (lead ++ body ++ (closing ++ [c]) ++ rest) =
      .ok (kind, (lead ++ body ++ (closing ++ [c])).length) := by
  have hafter : Text.after? lead (lead ++ body ++ (closing ++ [c]) ++ rest) =
      some (body ++ (closing ++ [c] ++ rest)) := by
    rw [List.append_assoc, List.append_assoc]
    exact Text.after?_append lead _
  rw [readEnclosed, hafter, Option.bind_some, Text.cutAt_append hclosing hbody]
  simp only [List.length_append]

theorem readInstruction_append {target body : Text} (hne : target ≠ [])
    (htarget : '?' ∉ target ∧ '>' ∉ target) (hbody : ¬ ['?', '>'] <:+: body) (rest : Text) :
    readInstruction ('?' :: target ++ body ++ ['?', '>'] ++ rest) =
      .ok (.instruction, ('?' :: target ++ body ++ ['?', '>']).length) := by
  obtain ⟨c, t, rfl⟩ := List.exists_cons_of_ne_nil hne
  have hinside : ¬ ['?'] ++ ['>'] <:+: c :: t ++ body := fun hwithin =>
    hbody (Text.infix_of_infix_append htarget.1 hwithin)
  have hcut : Text.cutAt "?>" (c :: (t ++ body ++ (['?', '>'] ++ rest))) =
      some (c :: t ++ body, rest) := Text.cutAt_append (by decide) hinside rest
  have hfirst : c ≠ '>' := fun heq => htarget.2 (heq ▸ List.mem_cons_self)
  have hdrop : ('?' :: c :: t ++ body ++ ['?', '>'] ++ rest).drop 1 =
      c :: (t ++ body ++ (['?', '>'] ++ rest)) := by simp
  rw [readInstruction, hdrop]
  -- a target that begins with `>` would be taken for the end of an instruction without a close
  split
  · rename_i heq
    exact absurd (List.cons.inj heq).1 hfirst
  · rw [hcut]
    simp [Nat.add_assoc]

theorem readReference_append {name : Text} (hname : ∀ c ∈ name, c ≠ ';' ∧ c ≠ '&' ∧ c ≠ '<')
    (rest : Text) :
    readReference (name ++ [';'] ++ rest) = .ok (.reference, (name ++ [';']).length) := by
  have hbody : (name ++ ';' :: rest).takeWhile (fun c => c ≠ ';' && c ≠ '&' && c ≠ '<') = name :=
    Text.takeWhile_append_of_stop (fun c hc => by simpa [and_assoc] using hname c hc) (by simp)
  rw [List.append_assoc, List.cons_append, List.nil_append, readReference, hbody, List.drop_left]
  simp

end Token

theorem isToken_comment (content : Enclosed "-->") :
    IsToken .comment (Misc.comment content).write := fun rest =>
  Token.ofText_append_of_read (Token.readEnclosed_append .comment .unclosedComment "!--" "--"
    (c := '>') (by decide) content.unclosed rest)

theorem isToken_instruction (target : Name) (content : Enclosed "?>") :
    IsToken .instruction (Misc.instruction target content).write := fun rest =>
  Token.ofText_append_of_read (Token.readInstruction_append target.ne_nil
    ⟨target.not_mem (by decide), target.not_mem (by decide)⟩ content.unclosed rest)

theorem isToken_characterData (content : Enclosed "]]>") :
    IsToken .characterData (Leaf.characterData content).write := fun rest =>
  Token.ofText_append_of_read (Token.readEnclosed_append .characterData .unclosedCharacterData
    "![CDATA[" "]]" (c := '>') (by decide) content.unclosed rest)

theorem isToken_reference {name : Text} (hname : ∀ c ∈ name, c ≠ ';' ∧ c ≠ '&' ∧ c ≠ '<') :
    IsToken .reference (Leaf.reference name hname).write := fun rest =>
  Token.ofText_append_of_read (Token.readReference_append hname rest)

/-- A text in which a tag does not end, and which leaves no quote open. -/
def InTag (a : Text) : Prop :=
  ∀ t, Token.tagBody none (a ++ t) = (Token.tagBody none t).map (a ++ ·)

namespace InTag

theorem nil : InTag [] := fun t => by
  rw [List.nil_append]
  cases Token.tagBody none t <;> rfl

theorem append {a b : Text} (ha : InTag a) (hb : InTag b) : InTag (a ++ b) := fun t => by
  rw [List.append_assoc, ha, hb]
  cases Token.tagBody none t with
  | error cause => rfl
  | ok body => simp [Except.map]

theorem of_forall {a : Text} (ha : ∀ c ∈ a, c ≠ '>' ∧ c ≠ '"' ∧ c ≠ '\'') : InTag a := by
  induction a with
  | nil => exact nil
  | cons c a ih =>
    intro t
    obtain ⟨⟨hstop, hdouble, hsingle⟩, ha⟩ := List.forall_mem_cons.mp ha
    rw [List.cons_append, Token.tagBody]
    simp only [hstop, hdouble, hsingle, or_self, if_false]
    rw [ih ha]
    cases Token.tagBody none t <;> rfl

theorem name (name : Name) : InTag name.text := by
  refine of_forall fun c hc => ⟨?_, ?_, ?_⟩ <;> rintro rfl
  all_goals exact name.not_mem (by decide) hc

theorem blank (space : Blank) : InTag space.text := by
  refine of_forall fun c hc => ⟨?_, ?_, ?_⟩ <;> rintro rfl
  all_goals exact space.not_mem (by decide) hc

/-- A value stays open up to its second quote. -/
theorem quoted (quote : Quote) {w : Text} (hw : quote.char ∉ w) :
    InTag (quote.char :: w ++ [quote.char]) := by
  intro t
  have hopen : Token.tagBody (some quote.char) (w ++ quote.char :: t) =
      (Token.tagBody none t).map (w ++ quote.char :: ·) := by
    induction w with
    | nil =>
      rw [List.nil_append, Token.tagBody]
      simp only [if_true]
      rfl
    | cons c w ih =>
      obtain ⟨hne, hw⟩ := not_or.mp (mt List.mem_cons.mpr hw)
      rw [List.cons_append, Token.tagBody]
      simp only [Ne.symm hne, if_false]
      rw [ih hw]
      cases Token.tagBody none t <;> rfl
  have hquote : quote.char ≠ '>' ∧ (quote.char = '"' ∨ quote.char = '\'') := by
    cases quote <;> decide
  rw [List.append_assoc, List.cons_append, Token.tagBody]
  simp only [hquote.1, hquote.2, if_true, if_false]
  rw [List.cons_append, List.nil_append, hopen]
  cases Token.tagBody none t with
  | error cause => rfl
  | ok body => simp [Except.map]

end InTag

theorem Attribute.inTag_write (item : Attribute) : InTag item.write := by
  have hequals : InTag ('=' :: item.behind.text) :=
    (InTag.of_forall (a := ['=']) (by simp)).append (.blank item.behind)
  have hvalue := InTag.quoted item.value.quote item.value.quote_not_mem_written
  rw [write, assignment, List.append_assoc (_ ++ _)]
  exact .append (.blank item.lead) (((InTag.name item.key).append (.blank item.before)).append
    hequals |>.append hvalue)

theorem Head.inTag_write (head : Head) : InTag head.write := by
  have hattributes : InTag (head.attributes.flatMap Attribute.write) := by
    induction head.attributes with
    | nil => exact .nil
    | cons item attributes ih => exact item.inTag_write.append ih
  exact .append (.name head.name) (hattributes.append (.blank head.space))

namespace Token

theorem read_tag {c : Char} (hc : c ≠ '!' ∧ c ≠ '?') (r : Text) :
    read '<' (c :: r) = readTag (c :: r) := by
  simp only [read, if_true]
  split
  · rename_i heq
    exact absurd (List.cons.inj heq).1 hc.1
  · rename_i heq
    exact absurd (List.cons.inj heq).1 hc.2
  · rfl

theorem tagBody_append {body : Text} (hbody : InTag body) (rest : Text) :
    tagBody none (body ++ ['>'] ++ rest) = .ok body := by
  have hends : tagBody none (['>'] ++ rest) = .ok [] := by simp [tagBody]
  rw [List.append_assoc, hbody, hends]
  simp [Except.map]

end Token

/-- What stands between angle brackets is a tag if it does not begin like an end tag, a declaration
or an instruction. -/
theorem isToken_tag {c : Char} {t body : Text} (hwrite : body = c :: t)
    (hfirst : c ≠ '/' ∧ c ≠ '!' ∧ c ≠ '?') (hbody : InTag body) :
    IsToken (if body.getLast? = some '/' then .emptyTag ⟨body.dropLast⟩ else .startTag ⟨body⟩)
      ('<' :: body ++ ['>']) := by
  intro rest
  apply Token.ofText_append_of_read
  change Token.read '<' (body ++ ['>'] ++ rest) = .ok (_, (body ++ ['>']).length)
  have htag : Token.read '<' (body ++ ['>'] ++ rest) = Token.readTag (body ++ ['>'] ++ rest) := by
    rw [hwrite]
    exact Token.read_tag hfirst.2 _
  rw [htag, Token.readTag, Token.tagBody_append hbody, List.length_append]
  simp only [Except.map]
  split
  · exact absurd (List.cons.inj hwrite).1.symm hfirst.1
  · rfl

theorem isToken_startTag (head : Head) : IsToken (.startTag ⟨head.write⟩) head.startTag := by
  obtain ⟨c, t, hwrite, hfirst⟩ := head.head?_write
  have htag := isToken_tag hwrite hfirst head.inTag_write
  rwa [if_neg head.getLast?_write] at htag

theorem isToken_emptyTag (head : Head) : IsToken (.emptyTag ⟨head.write⟩) head.emptyTag := by
  obtain ⟨c, t, hwrite, hfirst⟩ := head.head?_write
  have hbody : InTag (head.write ++ ['/']) := head.inTag_write.append (.of_forall (by simp))
  have hsource : '<' :: (head.write ++ ['/']) ++ ['>'] = head.emptyTag := by simp [Head.emptyTag]
  have htag := isToken_tag (t := t ++ ['/']) (by rw [hwrite, List.cons_append]) hfirst hbody
  rwa [if_pos List.getLast?_concat, List.dropLast_concat, hsource] at htag

theorem closedName_append (name : Name) (space : Blank) :
    Token.closedName (name.text ++ space.text) = name.text := by
  have hname : ((name.text ++ space.text).reverse.dropWhile isSpace).reverse = name.text := by
    rw [List.reverse_append, Text.dropWhile_append_of_stop, List.reverse_reverse]
    · exact fun c hc => space.spaces c (List.mem_reverse.mp hc)
    · intro c hc
      simpa using name.not_space c (List.mem_reverse.mp (List.mem_of_mem_head? hc))
  rw [Token.closedName, hname]
  simp [name.ne_nil]

theorem isToken_endTag (head : Head) (space : Blank) :
    IsToken (.endTag head.name.text) (head.endTag space) := by
  intro rest
  apply Token.ofText_append_of_read
  have hbody : InTag ('/' :: (head.name.text ++ space.text)) :=
    (InTag.of_forall (a := ['/']) (by simp)).append ((InTag.name head.name).append
      (.blank space))
  refine (Token.read_tag (by decide) _).trans ?_
  change Token.readTag ('/' :: (head.name.text ++ space.text) ++ ['>'] ++ rest) =
    .ok (_, ('/' :: (head.name.text ++ space.text) ++ ['>']).length)
  rw [Token.readTag, Token.tagBody_append hbody, List.length_append]
  simp only [Except.map, closedName_append]
  rfl

end Stencil.Markup
