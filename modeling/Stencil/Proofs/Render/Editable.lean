import Stencil.Files.Shelf
import Stencil.Proofs.Render.Substitution
import Stencil.Proofs.Text.Gaps
import Stencil.Render.Editable

namespace Stencil

theorem Directive.scan_eq_nil_iff {t : Text} : scan t = [] ↔ payloads t = [] := by
  rw [scan, List.map_eq_nil_iff, List.eq_nil_iff_forall_not_mem, List.eq_nil_iff_forall_not_mem]
  exact forall_congr' fun payload => not_congr List.mem_eraseDups

namespace Render

/-- What the attribute of the editor begins with. -/
def markLead : Text := "xmleditable=\""

/-- The attribute of the editor with the given value. -/
def mark (value : Text) : Text :=
  markLead ++ (value ++ ['"'])

theorem editable_eq_enclosed : editable = Text.enclosed markLead '"' [] := rfl

/-- What no render leaves as it is: an attribute of the editor, or a token. -/
inductive Active : Text → Prop
  | mark {value : Text} (hvalue : '"' ∉ value) : Active (mark value)
  | token {payload : Text} (hpayload : '}' ∉ payload) : Active (Directive.token payload)

theorem Active.ne_nil {part : Text} (hactive : Active part) : part ≠ [] := by
  cases hactive with
  | mark hvalue => simp [Render.mark]
  | token hpayload => simp [Directive.token]

theorem editable_mark_append {value : Text} (hvalue : '"' ∉ value) (rest : Text) :
    ∃ more, editable (mark value ++ rest) = some ([], more) := by
  rw [editable_eq_enclosed]
  refine ⟨_, Text.enclosed_eq_some_iff.mpr ⟨value, rest, hvalue, ?_, rfl, rfl⟩⟩
  simp only [mark, List.append_assoc, List.singleton_append]

theorem mark_leads_of_editable {t b : Text} {more : Nat}
    (hfound : editable t = some (b, more)) : ∃ value, '"' ∉ value ∧ mark value <+: t := by
  rw [editable_eq_enclosed] at hfound
  obtain ⟨value, rest, hvalue, rfl, -, -⟩ := Text.enclosed_eq_some_iff.mp hfound
  refine ⟨value, hvalue, rest, ?_⟩
  simp only [mark, List.append_assoc, List.singleton_append]

theorem matchesOf_editable_eq_nil_iff {t : Text} :
    Text.matchesOf editable t = [] ↔ ∀ value, '"' ∉ value → ¬ mark value <:+: t := by
  rw [Text.matchesOf_eq_nil_iff]
  constructor
  · rintro hquiet value hvalue ⟨before, rest, hsplit⟩
    obtain ⟨more, hfound⟩ := editable_mark_append hvalue rest
    have hnone := hquiet before (mark value ++ rest) (by rw [← hsplit, List.append_assoc])
      (by simp [mark])
    rw [List.append_nil, hfound] at hnone
    cases hnone
  · intro habsent before behind hsplit _
    rw [List.append_nil, Option.eq_none_iff_forall_ne_some]
    rintro ⟨b, more⟩ hfound
    obtain ⟨value, hvalue, hleads⟩ := mark_leads_of_editable hfound
    apply habsent value hvalue
    rw [hsplit]
    exact hleads.isInfix.trans (List.suffix_append before behind).isInfix

theorem scan_eq_nil_iff_no_token {t : Text} :
    Directive.scan t = [] ↔ ∀ payload, '}' ∉ payload → ¬ Directive.token payload <:+: t := by
  rw [Directive.scan_eq_nil_iff, Directive.payloads, Text.matchesOf_eq_nil_iff]
  constructor
  · rintro hquiet payload hpayload ⟨before, rest, hsplit⟩
    have hnone := hquiet before (Directive.token payload ++ rest)
      (by rw [← hsplit, List.append_assoc]) (by simp [Directive.token])
    rw [List.append_nil, Directive.tokenAt_token_append hpayload] at hnone
    cases hnone
  · intro habsent before behind hsplit _
    rw [List.append_nil, Option.eq_none_iff_forall_ne_some]
    rintro ⟨payload, more⟩ hfound
    obtain ⟨rest, rfl, hpayload, -⟩ := Directive.eq_token_append_of_tokenAt hfound
    exact habsent payload hpayload ⟨before, rest, by rw [hsplit, List.append_assoc]⟩

/-- A text without tokens and attributes is one in which nothing active stands. -/
theorem no_active_iff {t : Text} :
    (∀ part, Active part → ¬ part <:+: t) ↔
      Directive.scan t = [] ∧ Text.matchesOf editable t = [] := by
  rw [scan_eq_nil_iff_no_token, matchesOf_editable_eq_nil_iff]
  constructor
  · intro hnone
    exact ⟨fun _ hpayload => hnone _ (.token hpayload), fun _ hvalue => hnone _ (.mark hvalue)⟩
  · rintro ⟨htoken, hmark⟩ part hactive
    cases hactive with
    | mark hvalue => exact hmark _ hvalue
    | token hpayload => exact htoken _ hpayload

theorem stripEditable_eq_flatten_gaps (t : Text) :
    stripEditable t = (Text.gaps editable t).flatten := by
  apply Text.replaceMatches_eq_flatten_gaps
  intro s b more hfound
  rw [editable_eq_enclosed] at hfound
  obtain ⟨-, -, -, -, hnothing, -⟩ := Text.enclosed_eq_some_iff.mp hfound
  exact hnothing

theorem stripEditable_eq_self {t : Text} (hnone : Text.matchesOf editable t = []) :
    stripEditable t = t :=
  Text.replaceMatches_of_quiet (Text.matchesOf_eq_nil_iff.mp hnone)

/-- Nothing active stands in a gap of a text without tokens: a token in it would have been a token
of the text, and an attribute would have been taken out. -/
theorem not_active_of_mem_gaps {t gap part : Text} (hscan : Directive.scan t = [])
    (hgap : gap ∈ Text.gaps editable t) (hactive : Active part) : ¬ part <:+: gap := by
  intro hwithin
  cases hactive with
  | token hpayload =>
    exact scan_eq_nil_iff_no_token.mp hscan _ hpayload (hwithin.trans (Text.infix_of_mem_gaps hgap))
  | @mark value hvalue =>
    obtain ⟨rest, -, hquiet⟩ := Text.exists_quiet_of_mem_gaps hgap
    obtain ⟨before, behind, hsplit⟩ := hwithin
    obtain ⟨more, hfound⟩ := editable_mark_append hvalue (behind ++ rest)
    have hnone := hquiet before (mark value ++ behind) (by rw [← hsplit, List.append_assoc])
      (by simp [mark])
    rw [List.append_assoc, hfound] at hnone
    cases hnone

variable {η ω : Type} [Reads ω] [Offers η] [Handler η ω]

theorem render_of_no_directive {t : Text} (hscan : Directive.scan t = []) (depth : Nat)
    (ctx : Context η ω) : ctx.render (depth + 1) t = some (.ok (stripEditable t), ctx) := by
  rw [Engine.render_eq_ok_iff]
  refine ⟨[], ?_, rfl⟩
  rw [hscan]
  rfl

/-- A render of a document without directives succeeds, takes the editor's attributes out, and
leaves the context as it is. What it answers is free of attributes and tokens exactly if none of
them stands across a place where an attribute was taken out; rendered once more it then stays as it
is. -/
theorem render_of_no_directive_again_iff {text : Text} (hscan : Directive.scan text = [])
    (depth : Nat) (ctx : Context η ω) :
    let out := stripEditable text
    ctx.render (depth + 1) text = some (.ok out, ctx) ∧
    ((∀ part, Active part → ¬ Text.AcrossSeam (Text.gaps editable text) part) ↔
      Directive.scan out = [] ∧ Text.matchesOf editable out = []) ∧
    (Directive.scan out = [] ∧ Text.matchesOf editable out = [] →
      ctx.render (depth + 1) out = some (.ok out, ctx)) := by
  intro out
  have hout : out = (Text.gaps editable text).flatten := stripEditable_eq_flatten_gaps text
  refine ⟨render_of_no_directive hscan depth ctx, ?_, ?_⟩
  · rw [← no_active_iff, hout]
    refine forall_congr' fun part => forall_congr' fun hactive => not_congr ?_
    rw [Text.infix_flatten_iff hactive.ne_nil]
    constructor
    · exact .inr
    · rintro (⟨gap, hgap, hwithin⟩ | hacross)
      · exact absurd hwithin (not_active_of_mem_gaps hscan hgap hactive)
      · exact hacross
  · rintro ⟨hscan', hnone⟩
    rw [render_of_no_directive hscan', stripEditable_eq_self hnone]

theorem render_of_no_directive_again_iff_paragraph :
    let text : Text := "<p xmleditable=\"\">text</p>"
    let out : Text := "<p >text</p>"
    let ctx : Context Empty (Noted Shelf) :=
      Context.new Context.defaultRoot Context.defaultBase [] ⟨⟨[]⟩, []⟩
    Directive.scan text = [] ∧
    ctx.render 1 text = some (.ok out, ctx) ∧
    (∀ part, Active part → ¬ Text.AcrossSeam (Text.gaps editable text) part) ∧
    ctx.render 1 out = some (.ok out, ctx) := by
  intro text out ctx
  have hscan : Directive.scan text = [] := by decide +kernel
  have hout : stripEditable text = out := by decide +kernel
  have hclean : Directive.scan out = [] ∧ Text.matchesOf editable out = [] := by decide +kernel
  obtain ⟨hrender, hseams, hagain⟩ := render_of_no_directive_again_iff hscan 0 ctx
  rw [hout] at hrender hseams hagain
  exact ⟨hscan, hrender, hseams.mpr hclean, hagain hclean⟩

/-- Where an attribute stands within another one or within a pair of braces, a second render goes
on. -/
theorem render_again_closed_up :
    let text : Text := "\x7bxmleditable=\"\"{root}\x7dxmlxmleditable=\"\"editable=\"x\""
    let out : Text := "{{root}}xmleditable=\"x\""
    let ctx : Context Empty (Noted Shelf) :=
      Context.new Context.defaultRoot Context.defaultBase [] ⟨⟨[]⟩, []⟩
    Directive.scan text = [] ∧
    ctx.render 1 text = some (.ok out, ctx) ∧
    ctx.render 1 out = some (.ok Context.defaultRoot, ctx) ∧ Context.defaultRoot ≠ out := by
  refine ⟨by decide +kernel, ?_, ?_, by decide +kernel⟩ <;> rfl

end Render

end Stencil
