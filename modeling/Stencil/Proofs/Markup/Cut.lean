import Mathlib.Data.List.TakeWhile
import Mathlib.Tactic.SplitIfs
import Stencil.Proofs.Markup.Reading

namespace Stencil

namespace Text

theorem eq_append_of_cutAt {mark t a b : Text} (hcut : cutAt mark t = some (a, b)) :
    t = a ++ (mark ++ b) := by
  induction t generalizing a with
  | nil =>
    cases mark with
    | nil =>
      cases hcut
      rfl
    | cons c mark => cases hcut
  | cons c t ih =>
    rw [cutAt] at hcut
    split at hcut
    · rename_i hafter
      cases hcut
      rw [List.nil_append]
      exact after?_eq_some_iff.mp hafter
    · obtain ⟨⟨a', b'⟩, hlater, heq⟩ := Option.map_eq_some_iff.mp hcut
      cases heq
      rw [ih hlater, List.cons_append]

theorem after?_append_right {lead t rest : Text} (hafter : after? lead t = some rest)
    (more : Text) : after? lead (t ++ more) = some (rest ++ more) := by
  rw [after?_eq_some_iff.mp hafter, List.append_assoc, after?_append]

/-- What does not stand at the front of a text that is no shorter stands there neither when the
text goes on. -/
theorem after?_append_right_eq_none {lead t : Text} (hafter : after? lead t = none)
    (hlength : lead.length ≤ t.length) (more : Text) : after? lead (t ++ more) = none := by
  rw [Option.eq_none_iff_forall_ne_some]
  intro rest hrest
  have hwhole : lead <+: t ++ more := ⟨rest, (after?_eq_some_iff.mp hrest).symm⟩
  obtain ⟨rest', hfront⟩ :=
    List.prefix_of_prefix_length_le hwhole (List.prefix_append _ _) hlength
  rw [after?_eq_some_iff.mpr hfront.symm] at hafter
  cases hafter

/-- A mark that stands in a text stands there still when the text goes on. -/
theorem cutAt_append_right {mark t a b : Text} (hcut : cutAt mark t = some (a, b)) (more : Text) :
    cutAt mark (t ++ more) = some (a, b ++ more) := by
  induction t generalizing a with
  | nil =>
    obtain ⟨rfl, rfl, rfl⟩ : a = [] ∧ mark = [] ∧ b = [] := by
      simpa using eq_append_of_cutAt hcut
    cases more <;> rfl
  | cons c t ih =>
    rw [List.cons_append, cutAt]
    rw [cutAt] at hcut
    split at hcut
    · rename_i rest hafter
      cases hcut
      rw [← List.cons_append, after?_append_right hafter]
    · rename_i hafter
      obtain ⟨⟨a', b'⟩, hlater, heq⟩ := Option.map_eq_some_iff.mp hcut
      cases heq
      have hlength : mark.length ≤ (c :: t).length := by
        rw [eq_append_of_cutAt hlater]
        simp only [List.length_cons, List.length_append]
        omega
      rw [← List.cons_append, after?_append_right_eq_none hafter hlength, ih hlater]
      rfl

end Text

namespace Markup

namespace Token

/-- A way to read tokens of which none goes beyond the text that was read, so that more text does
not matter. -/
def Closes (readAny : Text → Reading) : Prop :=
  ∀ ⦃r kind n⦄, readAny r = .ok (kind, n) →
    n ≤ r.length ∧ ∀ more, readAny (r ++ more) = .ok (kind, n)

theorem tagBody_append_right {quote : Option Char} {r body : Text}
    (hbody : tagBody quote r = .ok body) :
    body.length < r.length ∧ ∀ more, tagBody quote (r ++ more) = .ok body := by
  induction r generalizing quote body with
  | nil => cases hbody
  | cons c r ih =>
    have hgoes : ∀ quote', (tagBody quote' r).map (c :: ·) = .ok body →
        body.length < (c :: r).length ∧
          ∀ more, (tagBody quote' (r ++ more)).map (c :: ·) = .ok body := by
      intro quote' hrest
      cases hr : tagBody quote' r with
      | error cause =>
        rw [hr] at hrest
        cases hrest
      | ok body' =>
        rw [hr] at hrest
        cases hrest
        obtain ⟨hlength, hmore⟩ := ih hr
        exact ⟨Nat.succ_lt_succ hlength, fun more => by rw [hmore]; rfl⟩
    cases quote with
    | none =>
      by_cases hends : c = '>'
      · simp only [tagBody, if_pos hends] at hbody
        cases hbody
        exact ⟨Nat.zero_lt_succ _, fun more => by
          rw [List.cons_append, tagBody]
          simp only [if_pos hends]⟩
      · simp only [tagBody, if_neg hends] at hbody
        obtain ⟨hlength, hmore⟩ := hgoes _ hbody
        refine ⟨hlength, fun more => ?_⟩
        rw [List.cons_append, tagBody]
        simp only [if_neg hends]
        exact hmore more
    | some q =>
      rw [tagBody] at hbody
      obtain ⟨hlength, hmore⟩ := hgoes _ hbody
      refine ⟨hlength, fun more => ?_⟩
      rw [List.cons_append, tagBody]
      exact hmore more

theorem closes_readTag : Closes readTag := by
  intro r kind n hread
  rw [readTag] at hread
  cases hr : tagBody none r with
  | error cause =>
    rw [hr] at hread
    cases hread
  | ok body =>
    obtain ⟨hlength, hmore⟩ := tagBody_append_right hr
    rw [hr] at hread
    cases hread
    exact ⟨hlength, fun more => by rw [readTag, hmore more]; rfl⟩

theorem closes_readEnclosed (kind : TokenKind) (fault : ReadFault) (lead closing : Text) :
    Closes (readEnclosed kind fault lead closing) := by
  intro r kind' n hread
  rw [readEnclosed] at hread
  cases hfound : (Text.after? lead r).bind (Text.cutAt closing) with
  | none =>
    rw [hfound] at hread
    cases hread
  | some found =>
    obtain ⟨body, rest⟩ := found
    rw [hfound] at hread
    cases hread
    obtain ⟨t, hlead, hcut⟩ := Option.bind_eq_some_iff.mp hfound
    constructor
    · rw [Text.after?_eq_some_iff.mp hlead, Text.eq_append_of_cutAt hcut]
      simp only [List.length_append]
      omega
    · intro more
      rw [readEnclosed, Text.after?_append_right hlead, Option.bind_some,
        Text.cutAt_append_right hcut]

theorem closes_readInstruction : Closes readInstruction := by
  intro r kind n hread
  cases r with
  | nil => cases hread
  | cons q t =>
    rw [readInstruction, List.drop_one, List.tail_cons] at hread
    split at hread
    · cases hread
    · rename_i hfirst
      split at hread
      · rename_i body rest hcut
        cases hread
        have hshape := Text.eq_append_of_cutAt hcut
        obtain ⟨c, t, rfl⟩ := List.exists_cons_of_ne_nil (l := t) (by simp [hshape])
        refine ⟨by rw [hshape]; simp, fun more => ?_⟩
        rw [readInstruction, List.cons_append, List.drop_one, List.tail_cons]
        split
        · rename_i heq
          rw [(List.cons.inj heq).1] at hfirst
          exact absurd rfl (hfirst t)
        · rw [Text.cutAt_append_right hcut]
      · cases hread

theorem closes_readReference : Closes readReference := by
  intro r kind n hread
  rw [readReference] at hread
  split at hread
  · rename_i rest hdrop
    cases hread
    have hname : ∀ c ∈ r.takeWhile fun c => c ≠ ';' && c ≠ '&' && c ≠ '<',
        c ≠ ';' ∧ c ≠ '&' ∧ c ≠ '<' := fun c hc => by
      simpa [and_assoc] using List.mem_takeWhile_imp hc
    have hshape := List.prefix_iff_eq_append.mp (List.takeWhile_prefix (l := r)
      fun c => c ≠ ';' && c ≠ '&' && c ≠ '<')
    rw [hdrop] at hshape
    generalize (r.takeWhile fun c => c ≠ ';' && c ≠ '&' && c ≠ '<') = name at hname hshape
    subst hshape
    refine ⟨by simp, fun more => ?_⟩
    simpa using readReference_append hname (rest ++ more)
  · cases hread

section Doctype

variable {skip : Nat} {state : DoctypeState} {r body : Text}

/-- A part of an internal subset that is skipped ends with its mark. -/
theorem length_le_of_doctypeBody_skipped {closing : Text}
    (hbody : doctypeBody 0 (.skipped closing) r = some body) : closing.length ≤ r.length := by
  induction r generalizing body with
  | nil => simp [doctypeBody] at hbody
  | cons c r ih =>
    rw [doctypeBody] at hbody
    split at hbody
    · rename_i hends
      obtain ⟨rest, hrest⟩ := Option.isSome_iff_exists.mp hends
      rw [Text.after?_eq_some_iff.mp hrest, List.length_append]
      omega
    · obtain ⟨body', hr, -⟩ := Option.map_eq_some_iff.mp hbody
      exact Nat.le_succ_of_le (ih hr)

/-- What stands behind a `<` of an internal subset shows before the next `>`. -/
theorem subsetPart_append_right (hmem : '>' ∈ r) (more : Text) :
    subsetPart (r ++ more) = subsetPart r := by
  have hsame : ∀ lead : Text, '>' ∉ lead →
      (Text.after? lead (r ++ more)).isSome = (Text.after? lead r).isSome := by
    intro lead hlead
    cases hafter : Text.after? lead r with
    | some rest =>
      rw [Text.after?_append_right hafter]
      rfl
    | none =>
      by_cases hlength : lead.length ≤ r.length
      · rw [Text.after?_append_right_eq_none hafter hlength]
      · rw [Option.isSome_none, Option.isSome_eq_false_iff, Option.isNone_iff_eq_none,
          Option.eq_none_iff_forall_ne_some]
        intro rest hrest
        have hshort : r <+: lead := List.prefix_of_prefix_length_le (List.prefix_append r more)
          ⟨rest, (Text.after?_eq_some_iff.mp hrest).symm⟩ (Nat.le_of_not_le hlength)
        exact hlead (hshort.subset hmem)
  have hquoted : (quotedDeclarations.any fun lead => (Text.after? lead (r ++ more)).isSome) =
      quotedDeclarations.any fun lead => (Text.after? lead r).isSome := by
    simp only [quotedDeclarations, List.any_cons, List.any_nil]
    rw [hsame _ (by decide), hsame _ (by decide), hsame _ (by decide)]
  rw [subsetPart, subsetPart, hsame _ (by decide), hsame _ (by decide), hquoted]

/-- A document type ends with a `>`, and what is behind that is not looked at. -/
theorem doctypeBody_append_right (hbody : doctypeBody skip state r = some body) :
    (∃ rest, r = body ++ '>' :: rest) ∧ ∀ more, doctypeBody skip state (r ++ more) = some body := by
  induction r generalizing skip state body with
  | nil => simp [doctypeBody] at hbody
  | cons c r ih =>
    have hgoes : ∀ {skip' state'}, (doctypeBody skip' state' r).map (c :: ·) = some body →
        (∃ rest, c :: r = body ++ '>' :: rest) ∧
          ∀ more, (doctypeBody skip' state' (r ++ more)).map (c :: ·) = some body := by
      intro skip' state' hrest
      obtain ⟨body', hr, rfl⟩ := Option.map_eq_some_iff.mp hrest
      obtain ⟨⟨rest, hends⟩, hmore⟩ := ih hr
      exact ⟨⟨rest, by rw [hends, List.cons_append]⟩, fun more => by rw [hmore, Option.map_some]⟩
    cases skip with
    | succ skip => exact hgoes hbody
    | zero =>
      cases state with
      | outer quote =>
        cases quote with
        | none =>
          simp only [List.cons_append, doctypeBody] at hbody ⊢
          split_ifs at hbody ⊢ with hstop hopens
          · cases hbody
            exact ⟨⟨r, by rw [hstop, List.nil_append]⟩, fun _ => rfl⟩
          · exact hgoes hbody
          · exact hgoes hbody
        | some q => exact hgoes hbody
      | subset =>
        simp only [List.cons_append, doctypeBody] at hbody ⊢
        split_ifs at hbody ⊢ with hcloses hpart
        · exact hgoes hbody
        · obtain ⟨body', hr, -⟩ := Option.map_eq_some_iff.mp hbody
          obtain ⟨⟨rest, hends⟩, -⟩ := ih hr
          simp only [subsetPart_append_right (r := r) (by simp [hends])]
          exact hgoes hbody
        · exact hgoes hbody
      | declaration quote =>
        cases quote with
        | none =>
          simp only [List.cons_append, doctypeBody] at hbody ⊢
          split_ifs at hbody ⊢ <;> exact hgoes hbody
        | some q => exact hgoes hbody
      | skipped closing =>
        simp only [List.cons_append, doctypeBody] at hbody ⊢
        cases hafter : Text.after? closing (c :: r) with
        | some rest =>
          rw [hafter] at hbody
          simp only [← List.cons_append, Text.after?_append_right hafter]
          exact hgoes hbody
        | none =>
          rw [hafter] at hbody
          obtain ⟨body', hr, -⟩ := Option.map_eq_some_iff.mp hbody
          have hlength := Nat.le_succ_of_le (length_le_of_doctypeBody_skipped hr)
          simp only [← List.cons_append, Text.after?_append_right_eq_none hafter hlength]
          exact hgoes hbody
      | closed =>
        simp only [List.cons_append, doctypeBody] at hbody ⊢
        split_ifs at hbody ⊢ with hstop
        · cases hbody
          exact ⟨⟨r, by rw [hstop, List.nil_append]⟩, fun _ => rfl⟩
        · exact hgoes hbody

theorem closes_readDoctype : Closes readDoctype := by
  intro r kind n hread
  rw [readDoctype] at hread
  split at hread
  · cases hread
  · rename_i body hbody
    obtain ⟨⟨rest, hends⟩, hmore⟩ := doctypeBody_append_right hbody
    split_ifs at hread with hlead hname
    cases hread
    refine ⟨by simp [hends], fun more => ?_⟩
    rw [readDoctype, hmore]
    simp only [if_neg hlead, if_neg hname]

end Doctype

theorem closes_readDeclaration : Closes readDeclaration := by
  intro r kind n hread
  unfold readDeclaration at hread
  split at hread
  · exact closes_readEnclosed _ _ _ _ hread
  · exact closes_readEnclosed _ _ _ _ hread
  · exact closes_readDoctype hread
  · exact closes_readDoctype hread
  · cases hread

/-- Whatever is read but plain text is read so in front of any text. -/
theorem closes_read {c : Char} (hplain : isPlain c = false) : Closes (read c) := by
  intro r kind n hread
  rcases (by simpa [isPlain, imp_iff_not_or] using hplain : c = '<' ∨ c = '&') with rfl | rfl
  · cases r with
    | nil => cases hread
    | cons d t =>
      by_cases hdeclaration : d = '!'
      · subst hdeclaration
        exact closes_readDeclaration hread
      · by_cases hinstruction : d = '?'
        · subst hinstruction
          exact closes_readInstruction hread
        · have htag := read_tag ⟨hdeclaration, hinstruction⟩
          rw [htag] at hread
          obtain ⟨hlength, hmore⟩ := closes_readTag hread
          exact ⟨hlength, fun more => (htag _).trans (hmore more)⟩
  · exact closes_readReference hread

end Token

/-- A text is one token if it is read as one, unless it is plain text. -/
theorem isToken_of_read {c : Char} {r : Text} {kind : TokenKind}
    (hplain : Token.isPlain c = false) (hread : Token.read c r = .ok (kind, r.length)) :
    IsToken kind (c :: r) := fun rest =>
  Token.ofText_append_of_read ((Token.closes_read hplain hread).2 rest)

/-- A text that is one token is read as that one in front of another text. -/
theorem IsToken.exists_read {kind : TokenKind} {source : Text} (htoken : IsToken kind source) :
    ∃ c r, source = c :: r ∧ ∀ d more, Token.read c (r ++ d :: more) = .ok (kind, r.length) := by
  cases source with
  | nil =>
    have hnil := htoken []
    cases hnil
  | cons c r =>
    refine ⟨c, r, rfl, fun d more => ?_⟩
    have hwhole := htoken (d :: more)
    rw [List.cons_append] at hwhole
    cases hread : Token.read c (r ++ d :: more) with
    | error cause =>
      simp only [Token.ofText, Token.ofTextFrom, hread] at hwhole
      have hsource := congrArg Token.source (List.cons.inj hwhole).1
      simp at hsource
    | ok found =>
      obtain ⟨kind', n⟩ := found
      rw [Token.ofText_cons_of_ok hread] at hwhole
      obtain ⟨hkind, hsource⟩ := Token.mk.inj (List.cons.inj hwhole).1
      have hlength := congrArg List.length (List.cons.inj hsource).2
      rw [List.length_take, List.length_append, List.length_cons] at hlength
      obtain rfl : n = r.length := by omega
      rw [hkind]

/-- Plain text is no such token: it goes on in the plain text behind it. -/
theorem IsToken.isPlain_eq_false {c : Char} {r : Text} {kind : TokenKind}
    (htoken : IsToken kind (c :: r)) : Token.isPlain c = false := by
  by_contra hplain
  have hwhole := htoken ['a']
  rw [List.cons_append, Token.ofText_cons_of_plain (by simpa using hplain)] at hwhole
  have hsource : (r ++ ['a']).takeWhile Token.isPlain = r :=
    (List.cons.inj (congrArg Token.source (List.cons.inj hwhole).1)).2
  have hall : ∀ d ∈ r, Token.isPlain d = true := by
    rw [← hsource]
    exact fun d hd => List.mem_takeWhile_imp hd
  rw [List.takeWhile_append_of_pos hall] at hsource
  simp [Token.isPlain] at hsource

/-- A token that is cut off behind its first character cannot be read. -/
theorem IsToken.cut {kind : TokenKind} {source kept : Text} (htoken : IsToken kind source)
    (hkept : kept <+: source) (hne : kept ≠ []) (hcut : kept ≠ source) :
    ∃ cause, Token.ofText kept = [⟨.fault cause, kept⟩] := by
  obtain ⟨c, r, rfl, hread⟩ := htoken.exists_read
  obtain ⟨d, k, rfl⟩ := List.exists_cons_of_ne_nil hne
  obtain ⟨rfl, more, rfl⟩ := List.cons_prefix_cons.mp hkept
  have hlonger : more ≠ [] := by
    rintro rfl
    exact hcut (by rw [List.append_nil])
  have hpositive := List.length_pos_iff.mpr hlonger
  have hwhole := hread 'a' []
  rw [List.append_assoc] at hwhole
  cases hk : Token.read d k with
  | error cause => exact ⟨cause, by simp only [Token.ofText, Token.ofTextFrom, hk]⟩
  | ok found =>
    obtain ⟨hlength, hsame⟩ := Token.closes_read htoken.isPlain_eq_false hk
    rw [hsame, Except.ok.injEq, Prod.mk.injEq] at hwhole
    rw [hwhole.2, List.length_append] at hlength
    omega

end Markup

end Stencil
