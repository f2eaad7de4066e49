import Stencil.Files.Shelf
import Stencil.Proofs.Directive.Overlap
import Stencil.Render.Operations

namespace Stencil

theorem Replacements.apply_cons (old new t : Text) (items : Replacements) :
    Replacements.apply ((old, new) :: items) t = items.apply (Text.replaceAll old new t) := rfl

/-- A text that takes part in no token: neither can one begin in it, nor at its end. -/
def Plain (t : Text) : Prop :=
  ¬ ['{', '{'] <:+: t ∧ ¬ ['{'] <:+ t

/-- Two opening braces stand in a document only where a token begins. Every sweep keeps it so. -/
structure Layout.Clear (layout : Layout Text) : Prop where
  payload : ∀ payload ∈ layout.marks, '{' ∉ payload ∧ '}' ∉ payload
  gap : ∀ gap ∈ layout.gaps, ¬ ['{', '{'] <:+: gap
  before : ∀ gap ∈ layout.gaps.dropLast, ¬ ['{'] <:+ gap

theorem Layout.Clear.tail {lead payload gap : Text} {places : List (Text × Text)}
    (hclear : Layout.Clear ⟨lead, (payload, gap) :: places⟩) : Layout.Clear ⟨gap, places⟩ where
  payload := fun p hp => hclear.payload p (List.mem_cons_of_mem _ hp)
  gap := fun g hg => hclear.gap g (List.mem_cons_of_mem _ hg)
  before := fun g hg => hclear.before g (by
    rw [Layout.dropLast_gaps_cons]
    exact List.mem_cons_of_mem _ hg)

namespace Directive

theorem braces_lead_of_token {payload t : Text} (hleads : token payload <+: t) :
    ['{', '{'] <+: t :=
  List.IsPrefix.trans ⟨payload ++ ['}', '}'], rfl⟩ hleads

theorem not_beginsIn_of_plain {t : Text} (hplain : Plain t) (payload : Text) :
    ¬ Text.BeginsIn (token payload) t := by
  rintro ⟨behind, hmem, hbehind, hleads⟩
  have hends : behind <:+ t := (List.mem_tails _ _).mp hmem
  rcases hleads with hleads | hleads
  · exact hplain.1 ((braces_lead_of_token hleads).isInfix.trans hends.isInfix)
  · obtain ⟨c, behind, rfl⟩ := List.exists_cons_of_ne_nil hbehind
    obtain ⟨rfl, htail⟩ := List.cons_prefix_cons.mp hleads
    cases behind with
    | nil => exact hplain.2 hends
    | cons d behind =>
      obtain ⟨rfl, -⟩ := List.cons_prefix_cons.mp htail
      have hbraces : ['{', '{'] <+: '{' :: '{' :: behind := ⟨behind, rfl⟩
      exact hplain.1 (hbraces.isInfix.trans hends.isInfix)

/-- One sweep of a clear document: the places that hold the token take the new text, and all
others stay as they are, unless the token begins in what they hold. -/
theorem replaceAll_write {layout : Layout Text} (hclear : layout.Clear) {payload : Text}
    (new : Text) {current : Text → Text} (hcurrent : current payload = token payload)
    (hsilent : ∀ p ∈ layout.marks, p ≠ payload → ¬ Text.BeginsIn (token payload) (current p)) :
    Text.replaceAll (token payload) new (layout.write current) =
      layout.write fun p => if p = payload then new else current p := by
  obtain ⟨lead, places⟩ := layout
  induction places generalizing lead with
  | nil =>
    have habsent : ¬ token payload <:+: lead := by
      intro hinfix
      apply hclear.gap lead (by simp [Layout.gaps])
      exact (braces_lead_of_token (List.prefix_refl _)).isInfix.trans hinfix
    simpa [Layout.write] using Text.replaceAll_eq_self (token_ne_nil payload) habsent new
  | cons place places ih =>
    obtain ⟨p, gap⟩ := place
    have hlead : ¬ Text.BeginsIn (token payload) lead :=
      not_beginsIn_of_plain ⟨hclear.gap lead (by simp [Layout.gaps]),
        hclear.before lead (by simp [Layout.dropLast_gaps_cons])⟩ payload
    have hrest := ih gap hclear.tail fun p' hp' => hsilent p' (List.mem_cons_of_mem _ hp')
    rw [Layout.write_cons, Layout.write_cons,
      Text.replaceAll_append_of_not_beginsIn (token_ne_nil payload) hlead]
    congr 1
    by_cases hp : p = payload
    · rw [hp, if_pos rfl, hcurrent, Text.replaceAll_append_self (token_ne_nil payload), hrest]
    · have hplace := hsilent p (by simp [Layout.marks]) hp
      rw [if_neg hp, Text.replaceAll_append_of_not_beginsIn (token_ne_nil payload) hplace, hrest]

/-- Sweeps for distinct tokens, one after another, put the text of each at its places, provided that
no token begins in a text that was put in before its sweep. -/
theorem apply_write {layout : Layout Text} (hclear : layout.Clear) {items : Replacements}
    (hdistinct : (items.map Prod.fst).Nodup)
    (htokens : ∀ raw ∈ items.map Prod.fst, ∃ p, raw = token p ∧ '}' ∉ p)
    (hlater : items.Pairwise fun item later => ¬ Text.BeginsIn later.1 item.2)
    {current : Text → Text} (hcurrent : ∀ p new, (token p, new) ∈ items → current p = token p)
    (hsilent : ∀ p ∈ layout.marks, current p = token p ∨
      ∀ raw ∈ items.map Prod.fst, ¬ Text.BeginsIn raw (current p)) :
    items.apply (layout.write current) =
      layout.write fun p => (items.lookup (token p)).getD (current p) := by
  induction items generalizing current with
  | nil => rfl
  | cons item items ih =>
    obtain ⟨raw, new⟩ := item
    obtain ⟨payload, rfl, hclosed⟩ := htokens raw List.mem_cons_self
    obtain ⟨hfresh, hdistinct⟩ := List.nodup_cons.mp hdistinct
    obtain ⟨hnew, hlater⟩ := List.pairwise_cons.mp hlater
    have hother : ∀ p new', (token p, new') ∈ items → p ≠ payload := by
      rintro p new' hmem rfl
      exact hfresh (List.mem_map.mpr ⟨_, hmem, rfl⟩)
    have hsweep := replaceAll_write hclear new (hcurrent payload new List.mem_cons_self) (by
      intro p hp hne
      rcases hsilent p hp with htoken | hsilent
      · obtain ⟨hopened', hclosed'⟩ := hclear.payload p hp
        rw [htoken]
        exact not_beginsIn_token hclosed hopened' hclosed' (Ne.symm hne)
      · exact hsilent _ List.mem_cons_self)
    rw [Replacements.apply_cons, hsweep, ih hdistinct]
    · apply Layout.write_congr
      intro p _
      by_cases hp : p = payload
      · have hnone : items.lookup (token payload) = none := by
          rw [List.lookup_eq_none_iff]
          intro entry hentry
          rw [bne_iff_ne]
          exact fun heq => hfresh (List.mem_map.mpr ⟨entry, hentry, heq.symm⟩)
        rw [hp, hnone, List.lookup_cons_self, if_pos rfl]
        rfl
      · have hne : (token p == token payload) = false := by
          simpa using fun heq => hp (token_injective heq)
        rw [if_neg hp, List.lookup_cons, hne]
    · exact fun raw' hmem => htokens raw' (List.mem_cons_of_mem _ hmem)
    · exact hlater
    · intro p new' hmem
      rw [if_neg (hother p new' hmem)]
      exact hcurrent p new' (List.mem_cons_of_mem _ hmem)
    · intro p hp
      by_cases heq : p = payload
      · rw [if_pos heq]
        refine .inr fun raw' hmem => ?_
        obtain ⟨later, hitem, rfl⟩ := List.mem_map.mp hmem
        exact hnew later hitem
      · rw [if_neg heq]
        exact (hsilent p hp).imp_right fun hsilent raw' hmem =>
          hsilent raw' (List.mem_cons_of_mem _ hmem)

end Directive

namespace Replacements

/-- Among replacements of distinct texts, the one that is found is the one that is there. -/
theorem lookup_eq_some_iff_mem {items : Replacements} (hdistinct : (items.map Prod.fst).Nodup)
    {old new : Text} : items.lookup old = some new ↔ (old, new) ∈ items := by
  induction items with
  | nil => simp
  | cons item items ih =>
    obtain ⟨old', new'⟩ := item
    obtain ⟨hfresh, hdistinct⟩ := List.nodup_cons.mp hdistinct
    rw [List.mem_cons, Prod.mk.injEq, List.lookup_cons]
    by_cases hold : old = old'
    · subst hold
      have hnot : (old, new) ∉ items := fun hmem =>
        hfresh (List.mem_map.mpr ⟨_, hmem, rfl⟩)
      simp [hnot, eq_comm]
    · have hbeq : (old == old') = false := by simpa using hold
      rw [hbeq]
      simpa [hold] using ih hdistinct

theorem lookup_eq_of_perm {items items' : Replacements} (hperm : items.Perm items')
    (hdistinct : (items.map Prod.fst).Nodup) (old : Text) :
    items.lookup old = items'.lookup old := by
  have hdistinct' := (hperm.map Prod.fst).nodup_iff.mp hdistinct
  apply Option.ext
  intro new
  rw [lookup_eq_some_iff_mem hdistinct, lookup_eq_some_iff_mem hdistinct', hperm.mem_iff]

end Replacements

namespace Engine

variable {η ω : Type} [Reads ω] [Offers η] [Handler η ω]

/-- Directives that were resolved are those that were to be resolved, in their order. -/
theorem map_fst_of_dispatchAll {below : Engine η ω} {directives : List Directive}
    {resolved : List (Directive × Resolution)} {ctx ctx' : Context η ω}
    (hresolved : below.dispatchAll directives ctx = some (.ok resolved, ctx')) :
    resolved.map Prod.fst = directives := by
  induction directives generalizing ctx resolved with
  | nil =>
    rw [dispatchAll] at hresolved
    cases hresolved
    rfl
  | cons directive directives ih =>
    rw [dispatchAll, Option.bind_eq_some_iff] at hresolved
    obtain ⟨⟨result, ctx₁⟩, -, hrest⟩ := hresolved
    cases result with
    | error cause => simp at hrest
    | ok resolution =>
      simp only [Option.map_eq_some_iff, Prod.mk.injEq] at hrest
      obtain ⟨⟨results, ctx₂⟩, hdispatch, hresults, rfl⟩ := hrest
      cases results with
      | error cause => simp [Except.map] at hresults
      | ok results =>
        simp only [Except.map, Except.ok.injEq] at hresults
        rw [← hresults, List.map_cons, ih hdispatch]

/-- What stands at the place of a token after rendering: the text answered for the token, or the
token itself where it was left as written. -/
def answerTo (resolved : List (Directive × Resolution)) (payload : Text) : Text :=
  match resolved.find? fun entry => entry.1.raw = Directive.token payload with
  | some (_, .replace answer) => answer
  | _ => Directive.token payload

theorem replacements_cons_replace (directive : Directive) (answer : Text)
    (resolved : List (Directive × Resolution)) :
    replacements ((directive, .replace answer) :: resolved) =
      (directive.raw, answer) :: replacements resolved := rfl

theorem replacements_cons_inert (directive : Directive)
    (resolved : List (Directive × Resolution)) :
    replacements ((directive, .inert) :: resolved) = replacements resolved := rfl

theorem mem_replacements {resolved : List (Directive × Resolution)} {raw answer : Text} :
    (raw, answer) ∈ replacements resolved ↔
      ∃ directive, (directive, .replace answer) ∈ resolved ∧ directive.raw = raw := by
  induction resolved with
  | nil => simp [replacements]
  | cons entry resolved ih =>
    obtain ⟨directive, answer' | _⟩ := entry
    · rw [replacements_cons_replace, List.mem_cons, ih]
      constructor
      · rintro (heq | ⟨directive', hmem, hraw⟩)
        · obtain ⟨rfl, rfl⟩ := Prod.mk.inj heq
          exact ⟨directive, List.mem_cons_self, rfl⟩
        · exact ⟨directive', List.mem_cons_of_mem _ hmem, hraw⟩
      · rintro ⟨directive', hmem, hraw⟩
        rcases List.mem_cons.mp hmem with heq | hmem
        · cases heq
          exact .inl (by rw [hraw])
        · exact .inr ⟨directive', hmem, hraw⟩
    · rw [replacements_cons_inert, ih]
      simp

theorem map_fst_replacements_sublist (resolved : List (Directive × Resolution)) :
    ((replacements resolved).map Prod.fst).Sublist (resolved.map fun entry => entry.1.raw) := by
  induction resolved with
  | nil => exact .slnil
  | cons entry resolved ih =>
    obtain ⟨directive, answer | _⟩ := entry
    · exact ih.cons_cons directive.raw
    · exact ih.cons directive.raw

/-- When every token was resolved once, the sweeps put in what was answered. -/
theorem answerTo_eq_lookup {resolved : List (Directive × Resolution)}
    (hdistinct : (resolved.map fun entry => entry.1.raw).Nodup) (payload : Text) :
    answerTo resolved payload =
      ((replacements resolved).lookup (Directive.token payload)).getD
        (Directive.token payload) := by
  induction resolved with
  | nil => rfl
  | cons entry resolved ih =>
    obtain ⟨directive, resolution⟩ := entry
    obtain ⟨hfresh, hdistinct⟩ := List.nodup_cons.mp hdistinct
    by_cases hraw : directive.raw = Directive.token payload
    · rw [answerTo, List.find?_cons_of_pos (by simpa using hraw)]
      cases resolution with
      | replace answer =>
        rw [replacements_cons_replace, hraw, List.lookup_cons_self]
        rfl
      | inert =>
        have hnone : (replacements resolved).lookup (Directive.token payload) = none := by
          rw [List.lookup_eq_none_iff]
          intro entry hentry
          have hmem := (map_fst_replacements_sublist resolved).subset (List.mem_map_of_mem hentry)
          rw [bne_iff_ne, ← hraw]
          intro heq
          rw [← heq] at hmem
          exact hfresh hmem
        rw [replacements_cons_inert, hnone]
        rfl
    · have hfind := ih hdistinct
      rw [answerTo] at hfind ⊢
      rw [List.find?_cons_of_neg (by simpa using hraw), hfind]
      cases resolution with
      | replace answer =>
        have hne : (Directive.token payload == directive.raw) = false := by
          simpa using Ne.symm hraw
        rw [replacements_cons_replace, List.lookup_cons, hne]
      | inert => rw [replacements_cons_inert]

/-- A render that succeeds has resolved every directive, and sweeps the document for them. -/
theorem render_eq_ok_iff {depth : Nat} {text out : Text} {ctx ctx' : Context η ω} :
    ctx.render (depth + 1) text = some (.ok out, ctx') ↔
      ∃ resolved,
        (engine depth).dispatchAll (Directive.scan text) ctx = some (.ok resolved, ctx') ∧
        out = Render.stripEditable ((replacements resolved).apply text) := by
  change Option.map _ _ = _ ↔ _
  rw [Option.map_eq_some_iff]
  constructor
  · rintro ⟨⟨result, ctx₁⟩, hdispatch, hout⟩
    cases result with
    | error cause => simp [Except.map] at hout
    | ok resolved =>
      simp only [Except.map, Prod.mk.injEq, Except.ok.injEq] at hout
      obtain ⟨hout, rfl⟩ := hout
      exact ⟨resolved, hdispatch, hout.symm⟩
  · rintro ⟨resolved, hdispatch, rfl⟩
    exact ⟨_, hdispatch, rfl⟩

section Resolved

variable {text : Text} {resolved : List (Directive × Resolution)}
  (hdirectives : resolved.map Prod.fst = Directive.scan text)

include hdirectives

theorem exists_payload_of_resolved {directive : Directive} {resolution : Resolution}
    (hmem : (directive, resolution) ∈ resolved) :
    ∃ payload ∈ Directive.payloads text, directive.raw = Directive.token payload := by
  have hscan : directive ∈ Directive.scan text := by
    rw [← hdirectives]
    exact List.mem_map_of_mem hmem
  obtain ⟨payload, hpayload, rfl⟩ := Directive.raw_of_mem_scan hscan
  exact ⟨payload, hpayload, rfl⟩

theorem exists_payload_of_mem_replacements {raw : Text}
    (hmem : raw ∈ (replacements resolved).map Prod.fst) :
    ∃ payload ∈ Directive.payloads text, raw = Directive.token payload := by
  obtain ⟨item, hitem, rfl⟩ := List.mem_map.mp hmem
  obtain ⟨directive, hresolved, hraw⟩ := mem_replacements.mp hitem
  rw [← hraw]
  exact exists_payload_of_resolved hdirectives hresolved

theorem nodup_map_raw_resolved : (resolved.map fun entry => entry.1.raw).Nodup := by
  have hnodup := Directive.nodup_map_raw_scan text
  rw [← hdirectives, List.map_map] at hnodup
  exact hnodup

theorem nodup_map_fst_replacements : ((replacements resolved).map Prod.fst).Nodup :=
  (nodup_map_raw_resolved hdirectives).sublist (map_fst_replacements_sublist resolved)

end Resolved

/-- Sweeps for distinct tokens of a document put texts at their places, provided that no token
begins in a text that was put in before its sweep. -/
theorem apply_eq_write_lookup {text : Text} (hclear : (Directive.layout text).Clear)
    {items : Replacements} (hdistinct : (items.map Prod.fst).Nodup)
    (htokens : ∀ raw ∈ items.map Prod.fst, ∃ p ∈ Directive.payloads text, raw = Directive.token p)
    (hlater : items.Pairwise fun item later => ¬ Text.BeginsIn later.1 item.2) :
    items.apply text = (Directive.layout text).write fun p =>
      (items.lookup (Directive.token p)).getD (Directive.token p) := by
  have htokens' : ∀ raw ∈ items.map Prod.fst, ∃ p, raw = Directive.token p ∧ '}' ∉ p := by
    intro raw hmem
    obtain ⟨p, hp, hraw⟩ := htokens raw hmem
    exact ⟨p, hraw, Directive.not_mem_of_mem_payloads hp⟩
  calc items.apply text
      = items.apply ((Directive.layout text).write Directive.token) := by
        rw [Directive.write_layout]
    _ = (Directive.layout text).write fun p =>
          (items.lookup (Directive.token p)).getD (Directive.token p) :=
        Directive.apply_write hclear hdistinct htokens' hlater (fun _ _ _ => rfl)
          (fun _ _ => .inl rfl)

/-- Sweeping for the answers, in whatever order, puts each answer at the places of its token. -/
theorem apply_eq_write_answers {text : Text} {resolved : List (Directive × Resolution)}
    (hclear : (Directive.layout text).Clear)
    (hdirectives : resolved.map Prod.fst = Directive.scan text)
    (hanswers : ∀ directive answer, (directive, .replace answer) ∈ resolved → Plain answer)
    {items : Replacements} (hperm : items.Perm (replacements resolved)) :
    items.apply text = (Directive.layout text).write (answerTo resolved) := by
  have hdistinct : (items.map Prod.fst).Nodup :=
    (hperm.map Prod.fst).nodup_iff.mpr (nodup_map_fst_replacements hdirectives)
  have htokens : ∀ raw ∈ items.map Prod.fst,
      ∃ p ∈ Directive.payloads text, raw = Directive.token p := fun raw hmem =>
    exists_payload_of_mem_replacements hdirectives ((hperm.map Prod.fst).mem_iff.mp hmem)
  have hlater : items.Pairwise fun item later => ¬ Text.BeginsIn later.1 item.2 := by
    refine List.pairwise_of_forall_mem_list fun item hitem later hmem => ?_
    obtain ⟨directive, hresolved, -⟩ := mem_replacements.mp (hperm.mem_iff.mp hitem)
    obtain ⟨p, -, hp⟩ := htokens later.1 (List.mem_map_of_mem hmem)
    rw [hp]
    exact Directive.not_beginsIn_of_plain (hanswers directive item.2 hresolved) p
  rw [apply_eq_write_lookup hclear hdistinct htokens hlater]
  apply Layout.write_congr
  intro payload _
  rw [answerTo_eq_lookup (nodup_map_raw_resolved hdirectives),
    Replacements.lookup_eq_of_perm hperm hdistinct]

/-- A document in which two opening braces stand only in front of tokens is rendered by putting
the answer to every token at the places where the token was scanned, as long as no answer can take
part in a token. The sweeps that do it may be made in any order. -/
theorem render_eq_write_answers {depth : Nat} {text out : Text} {ctx ctx' : Context η ω}
    (hpayload : ∀ payload ∈ (Directive.layout text).marks, '{' ∉ payload)
    (hgap : ∀ gap ∈ (Directive.layout text).gaps, ¬ ['{', '{'] <:+: gap)
    (hrender : ctx.render (depth + 1) text = some (.ok out, ctx')) :
    (Directive.layout text).write Directive.token = text ∧
    ∃ resolved,
      (engine depth).dispatchAll (Directive.scan text) ctx = some (.ok resolved, ctx') ∧
      resolved.map Prod.fst = Directive.scan text ∧
      ((∀ directive answer, (directive, .replace answer) ∈ resolved →
          ¬ ['{', '{'] <:+: answer ∧ ¬ ['{'] <:+ answer) →
        out = Render.stripEditable ((Directive.layout text).write (answerTo resolved)) ∧
        ∀ items : Replacements, items.Perm (replacements resolved) →
          out = Render.stripEditable (items.apply text)) := by
  obtain ⟨resolved, hdispatch, rfl⟩ := render_eq_ok_iff.mp hrender
  have hdirectives := map_fst_of_dispatchAll hdispatch
  refine ⟨Directive.write_layout text, resolved, hdispatch, hdirectives, fun hanswers => ?_⟩
  have hclear : (Directive.layout text).Clear := {
    payload := fun payload hmem => ⟨hpayload payload hmem,
      Directive.not_mem_of_mem_payloads (Directive.marks_layout text ▸ hmem)⟩
    gap := hgap
    before := fun gap hmem => Directive.not_brace_suffix_of_mem_dropLast_gaps hmem }
  have hsweeps := fun (items : Replacements) (hperm : items.Perm (replacements resolved)) =>
    apply_eq_write_answers hclear hdirectives hanswers hperm
  refine ⟨by rw [hsweeps _ (.refl _)], fun items hperm => ?_⟩
  rw [hsweeps items hperm, hsweeps _ (.refl _)]

/-- A root path that begins with an opening brace may stand next to a token that is left as
written. -/
theorem render_eq_write_answers_braced_root :
    let text : Text :=
      ['<', '{', '{', 'r', 'o', 'o', 't', '}', '}', '{', '{', 'x', '.', 'y', '}', '}',
        '{', '{', 'r', 'o', 'o', 't', '}', '}']
    let out : Text := ['<', '{', '/', '{', '{', 'x', '.', 'y', '}', '}', '{', '/']
    let ctx : Context Empty (Noted Shelf) :=
      Context.new ['{', '/'] Context.defaultBase [] ⟨⟨[]⟩, []⟩
    (∀ payload ∈ (Directive.layout text).marks, '{' ∉ payload) ∧
    (∀ gap ∈ (Directive.layout text).gaps, ¬ ['{', '{'] <:+: gap) ∧
    ctx.render 1 text = some (.ok out, ctx) ∧
    ∃ resolved,
      (engine 0).dispatchAll (Directive.scan text) ctx = some (.ok resolved, ctx) ∧
      (∀ directive answer, (directive, .replace answer) ∈ resolved →
        ¬ ['{', '{'] <:+: answer ∧ ¬ ['{'] <:+ answer) ∧
      out = Render.stripEditable ((Directive.layout text).write (answerTo resolved)) := by
  intro text out ctx
  have hpayload : ∀ payload ∈ (Directive.layout text).marks, '{' ∉ payload := by decide +kernel
  have hgap : ∀ gap ∈ (Directive.layout text).gaps, ¬ ['{', '{'] <:+: gap := by decide +kernel
  have hrender : ctx.render 1 text = some (.ok out, ctx) := by rfl
  obtain ⟨-, resolved, hdispatch, -, hout⟩ := render_eq_write_answers hpayload hgap hrender
  have hanswers : ∀ directive answer, (directive, .replace answer) ∈ resolved →
      ¬ ['{', '{'] <:+: answer ∧ ¬ ['{'] <:+ answer := by
    have hroot : ∀ entry ∈ resolved, entry.2 = .replace ['{', '/'] ∨ entry.2 = .inert := by
      cases hdispatch
      decide +kernel
    intro directive answer hmem
    rcases hroot _ hmem with hreplace | hinert
    · cases hreplace
      decide
    · cases hinert
  exact ⟨hpayload, hgap, hrender, resolved, hdispatch, hanswers, (hout hanswers).1⟩

end Engine

end Stencil
