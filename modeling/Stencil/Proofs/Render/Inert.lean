import Mathlib.Data.List.Count
import Stencil.Files.Shelf
import Stencil.Proofs.Render.Resolved

namespace Stencil

/-- Sweeps for tokens of which none ends in a given one, or the other way round, leave that one at
all its places. -/
theorem Directive.occurrences_le_apply {payload : Text} (hclosed : '}' ∉ payload)
    {items : Replacements}
    (hitems : ∀ raw ∈ items.map Prod.fst, ∃ p, '}' ∉ p ∧ raw = token p ∧
      ¬ token p <:+ token payload ∧ ¬ token payload <:+ token p) (t : Text) :
    Text.occurrences (token payload) t ≤ Text.occurrences (token payload) (items.apply t) := by
  induction items generalizing t with
  | nil => exact Nat.le_refl _
  | cons item items ih =>
    obtain ⟨raw, new⟩ := item
    obtain ⟨p, hp, rfl, hinside, haround⟩ := hitems raw List.mem_cons_self
    have hsweep : Text.occurrences (token payload) t ≤
        Text.occurrences (token payload) (Text.replaceAll (token p) new t) := by
      apply Text.occurrences_le_replaceAll (token_ne_nil p) (token_ne_nil payload)
      · exact fun hbegins => hinside (suffix_of_beginsIn hp hclosed hbegins)
      · exact fun hbegins => haround (suffix_of_beginsIn hclosed hp hbegins)
    rw [Replacements.apply_cons]
    exact hsweep.trans (ih (fun raw' hmem => hitems raw' (List.mem_cons_of_mem _ hmem)) _)

namespace Engine

variable {η ω : Type} [Reads ω] [Offers η] [Handler η ω]

/-- A directive is left as written just when, at its turn, its plugin is not registered and it
includes no file. When all tokens have been swept for, its own token still stands at least as often
as it was matched, provided that no token that was replaced is the end of it or ends in it. -/
theorem inert_token_stays {depth : Nat} {text out : Text} {ctx ctx' : Context η ω}
    (hrender : ctx.render (depth + 1) text = some (.ok out, ctx')) :
    ∃ resolved,
      (engine depth).dispatchAll (Directive.scan text) ctx = some (.ok resolved, ctx') ∧
      let swept := (replacements resolved).apply text
      out = Render.stripEditable swept ∧
      ∀ before directive resolution after,
        resolved = before ++ (directive, resolution) :: after →
        (∃ reached, (engine depth).dispatchAll (before.map Prod.fst) ctx =
            some (.ok before, reached) ∧
          (resolution = .inert ↔ directive.Unknown reached)) ∧
        (resolution = .inert →
          (∀ other answer, (other, .replace answer) ∈ resolved →
            ¬ other.raw <:+ directive.raw ∧ ¬ directive.raw <:+ other.raw) →
          ((Directive.spans text).map Directive.Span.raw).count directive.raw ≤
            Text.occurrences directive.raw swept) := by
  obtain ⟨resolved, hdispatch, hout⟩ := render_eq_ok_iff.mp hrender
  have hdirectives := map_fst_of_dispatchAll hdispatch
  refine ⟨resolved, hdispatch, hout, ?_⟩
  rintro before directive resolution after rfl
  constructor
  · obtain ⟨reached, next, hbefore, hturn⟩ := exists_turn hdispatch
    refine ⟨reached, hbefore, ?_⟩
    constructor
    · rintro rfl
      exact (dispatch_eq_inert_iff.mp hturn).1
    · intro hunknown
      rw [dispatch_eq_inert_iff.mpr ⟨hunknown, rfl⟩] at hturn
      cases hturn
      rfl
  · rintro rfl happart
    obtain ⟨payload, hpayload, hraw⟩ := exists_payload_of_resolved hdirectives
      (List.mem_append_right before List.mem_cons_self)
    rw [hraw] at happart ⊢
    have hcount : ((Directive.spans text).map Directive.Span.raw).count (Directive.token payload) =
        (Directive.payloads text).count payload := by
      rw [← Directive.map_payload_spans, ← List.count_map_of_injective
        ((Directive.spans text).map Directive.Span.payload) Directive.token
        (fun _ _ => Directive.token_injective), List.map_map]
      rfl
    rw [hcount]
    refine (Directive.count_payloads_le_occurrences payload text).trans ?_
    apply Directive.occurrences_le_apply (Directive.not_mem_of_mem_payloads hpayload)
    intro raw hmem
    obtain ⟨⟨_, answer⟩, hitem, rfl⟩ := List.mem_map.mp hmem
    obtain ⟨other, hother, rfl⟩ := mem_replacements.mp hitem
    obtain ⟨p, hp, hotherRaw⟩ := exists_payload_of_resolved hdirectives hother
    have happart := happart other answer hother
    rw [hotherRaw] at happart
    exact ⟨p, Directive.not_mem_of_mem_payloads hp, hotherRaw, happart⟩

theorem inert_token_stays_unknown_plugin :
    let text : Text := "{{root}}app/{{unknown.x}}, {{unknown.x}}"
    let out : Text := "/app/{{unknown.x}}, {{unknown.x}}"
    let raw : Text := "{{unknown.x}}"
    let ctx : Context Empty (Noted Shelf) :=
      Context.new Context.defaultRoot Context.defaultBase [] ⟨⟨[]⟩, []⟩
    ctx.render 1 text = some (.ok out, ctx) ∧
    ∃ resolved, (engine 0).dispatchAll (Directive.scan text) ctx = some (.ok resolved, ctx) ∧
      (∀ other answer, (other, .replace answer) ∈ resolved →
        ¬ other.raw <:+ raw ∧ ¬ raw <:+ other.raw) ∧
      ((Directive.spans text).map Directive.Span.raw).count raw ≤
        Text.occurrences raw ((replacements resolved).apply text) := by
  intro text out raw ctx
  have hrender : ctx.render 1 text = some (.ok out, ctx) := by rfl
  obtain ⟨resolved, hdispatch, -, hstays⟩ := inert_token_stays hrender
  have hresolved : resolved = [(Directive.parse "{{root}}" "root", .replace Context.defaultRoot),
      (Directive.parse raw "unknown.x", .inert)] := by
    have hends : (engine 0).dispatchAll (Directive.scan text) ctx =
        some (.ok [(Directive.parse "{{root}}" "root", .replace Context.defaultRoot),
          (Directive.parse raw "unknown.x", .inert)], ctx) := by rfl
    rw [hends] at hdispatch
    cases hdispatch
    rfl
  subst hresolved
  have happart : ∀ other answer, (other, .replace answer) ∈
      [(Directive.parse "{{root}}" "root", Resolution.replace Context.defaultRoot),
        (Directive.parse raw "unknown.x", .inert)] →
      ¬ other.raw <:+ raw ∧ ¬ raw <:+ other.raw := by
    intro other answer hmem
    rcases List.mem_cons.mp hmem with heq | hmem
    · cases heq
      decide +kernel
    · cases List.mem_singleton.mp hmem
  refine ⟨hrender, _, hdispatch, happart, ?_⟩
  exact (hstays [_] _ _ [] rfl).2 rfl happart

/-- The token of a directive that is left as written may end in another token, and is then lost to
the sweep for that one. -/
theorem inert_token_lost :
    let text : Text := "{{root}}\x7b\x7bx.y{{root}}"
    let raw : Text := "\x7b\x7bx.y{{root}}"
    let ctx : Context Empty (Noted Shelf) :=
      Context.new Context.defaultRoot Context.defaultBase [] ⟨⟨[]⟩, []⟩
    ctx.render 1 text = some (.ok "/\x7b\x7bx.y/", ctx) ∧
    ((Directive.spans text).map Directive.Span.raw).count raw = 1 ∧
    ∃ resolved, (engine 0).dispatchAll (Directive.scan text) ctx = some (.ok resolved, ctx) ∧
      (Directive.parse raw "x.y\x7b\x7broot", .inert) ∈ resolved ∧
      Text.occurrences raw ((replacements resolved).apply text) = 0 := by
  refine ⟨by rfl, by decide +kernel, _, by rfl, ?_, by decide +kernel⟩
  decide +kernel

end Engine

end Stencil
