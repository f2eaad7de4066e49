import Stencil.Proofs.Markup.Stripping
import Stencil.Render.Engine
import Stencil.Site.Plugins

namespace Stencil

variable {ζ ω : Type} [HasDisk ω] [Offers ζ] [Handler ζ (SiteWorld ω)]

/-- The plugin that serves the page looks at the page and answers. -/
theorem Engine.run_pagePlugin (below : Engine (SitePlugin ζ) (SiteWorld ω)) {method : Text}
    {command : PageCommand} (hcommand : PageCommand.table.get method = some command)
    (params : Option ParamSet) (ctx : Context (SitePlugin ζ) (SiteWorld ω)) :
    below.run (Handler.invoke (SitePlugin.pagePlugin : SitePlugin ζ) method params) ctx =
      some ((SitePlugin.pagePlugin, .ok (command.answer params ctx.world.page)), [], ctx) := by
  change below.run ((Bound.invoke PageCommand.run
    ⟨SitePlugin.pageName, PageCommand.table, ()⟩ method params).andThen _) ctx = _
  rw [Bound.invoke, hcommand]
  rfl

/-- Where the plugin that serves the page is in its place, it answers a call for the title, given
the flag, with the title without tags. -/
theorem Engine.call_title_notags (below : Engine (SitePlugin ζ) (SiteWorld ω)) {params : ParamSet}
    (hflag : params.contains "notags" = true) {ctx : Context (SitePlugin ζ) (SiteWorld ω)}
    {registry : Registry (SitePlugin ζ)}
    (hlent : ctx.registry.lend? SitePlugin.pageName = some (SitePlugin.pagePlugin, registry)) :
    ∃ ctx', below.call SitePlugin.pageName "title" params ctx =
      some (.ok (Markup.stripTags (ctx.world.page.title.getD PageCommand.noTitle)), ctx') := by
  have hcommand : PageCommand.table.get "title" = some .title := by decide
  have haccepts : (Offers.offer (SitePlugin.pagePlugin : SitePlugin ζ)).accepts "title" = true :=
    congrArg Option.isSome hcommand
  have hparams : params.isEmpty = false := by
    cases params with
    | nil => cases hflag
    | cons => rfl
  refine ⟨{ ctx with registry }.restore SitePlugin.pageName SitePlugin.pagePlugin, ?_⟩
  rw [call, hlent]
  simp only [haccepts, if_true, hparams, Bool.false_eq_true, if_false,
    run_pagePlugin below hcommand, Option.map_some, PageCommand.answer, Option.any_some, hflag]
  simp [Except.map]

open Markup

/-- Markup can be cut at its tags in one way, and without tags it is the texts between them. In
what is left no tag stands, so a second pass changes nothing; and where no tag is left open, text
behind it does not matter. So neither what an element holds, without tags, nor a title that is
served without tags has a tag in it. -/
theorem Markup.stripTags_leaves_texts (t : Text) :
    (∃ segments : Segments, (∀ other : Segments, other.write = t ↔ other = segments) ∧
      stripTags t = segments.texts) ∧
    Tagless (stripTags t) ∧
    stripTags (stripTags t) = stripTags t ∧
    (TagsClosed t → ∀ behind, stripTags (t ++ behind) = stripTags t ++ stripTags behind) ∧
    (∀ element : Page.Element, element.inner = t → Tagless element.innerText) ∧
    ∀ (below : Engine (SitePlugin ζ) (SiteWorld ω)) (params : ParamSet)
      (ctx : Context (SitePlugin ζ) (SiteWorld ω)) (registry : Registry (SitePlugin ζ)),
      ctx.registry.lend? SitePlugin.pageName = some (SitePlugin.pagePlugin, registry) →
      params.contains "notags" = true → ctx.world.page.title.getD PageCommand.noTitle = t →
      ∃ title ctx', below.call SitePlugin.pageName "title" params ctx = some (.ok title, ctx') ∧
        title = stripTags t ∧ Tagless title := by
  obtain ⟨segments, hwrite⟩ := Segments.exists_write_eq t
  have hagain : stripTags (stripTags t) = stripTags t := stripTags_eq_self (tagless_stripTags t)
  refine ⟨⟨segments, fun other => ?_, ?_⟩, tagless_stripTags t, hagain, stripTags_append, ?_, ?_⟩
  · rw [← hwrite]
    exact ⟨Segments.write_injective, congrArg Segments.write⟩
  · rw [← hwrite, segments.stripTags_write]
  · rintro element -
    exact tagless_stripTags _
  · rintro below params ctx registry hlent hflag rfl
    obtain ⟨ctx', hcall⟩ := below.call_title_notags hflag hlent
    exact ⟨_, ctx', hcall, rfl, tagless_stripTags _⟩

/-- A `>` in an attribute ends the tag, and a `<` without an end stays. -/
theorem Markup.stripTags_leaves_texts_stray_bracket :
    let t : Text := "<i a='<'>1</i> > 0"
    let behind : Text := " <1<b>2 < 3"
    let params : ParamSet := [("notags", .flag)]
    let page : Page := { Page.empty with title := some t }
    let registry : Registry (SitePlugin Empty) :=
      Registry.empty.add ⟨SitePlugin.pageName, some SitePlugin.pagePlugin, true⟩ rfl
    let ctx : Context (SitePlugin Empty) (SiteWorld Disk) :=
      ⟨Context.defaultRoot, Context.defaultBase, registry, [],
        ⟨page, ⟨['/'], fun _ => .error .missing⟩⟩⟩
    TagsClosed t ∧ stripTags (t ++ behind) = "1 > 0 2 < 3".toList ∧
    (registry.lend? SitePlugin.pageName).map Prod.fst = some SitePlugin.pagePlugin ∧
    params.contains "notags" = true ∧
    ∃ title ctx', (engine 1).call SitePlugin.pageName "title" params ctx =
      some (.ok title, ctx') ∧ title = "1 > 0".toList ∧ Tagless title := by
  intro t behind params page registry ctx
  have hclosed : TagsClosed t := by decide +kernel
  have hlent : (registry.lend? SitePlugin.pageName).map Prod.fst =
    some SitePlugin.pagePlugin := rfl
  have hflag : params.contains "notags" = true := by decide
  obtain ⟨-, -, -, happend, -, htitle⟩ := stripTags_leaves_texts (ζ := Empty) (ω := Disk) t
  obtain ⟨title, ctx', hcall, heq, htagless⟩ := htitle (engine 1) params ctx _ rfl hflag rfl
  have hstripped : stripTags t = "1 > 0".toList := by decide +kernel
  refine ⟨hclosed, ?_, hlent, hflag, title, ctx', hcall, heq.trans hstripped, htagless⟩
  rw [happend hclosed, hstripped]
  decide +kernel

end Stencil
