import Stencil.Proofs.Render.Still
import Stencil.Site.Project

namespace Stencil

/-- What a project with no plugins but its own keeps. -/
structure Kept where
  /-- whether `Config` has been loaded -/
  loaded : Bool
  baseDir : Text
  page : Page

/-- What a project keeps that has not answered any request. -/
def Kept.initial : Kept :=
  ⟨false, Context.defaultBase, Page.empty⟩

namespace SitePlugin

variable {ζ ω : Type} [HasDisk ω] [Offers ζ] [Handler ζ (SiteWorld ω)]

theorem still_pagePlugin : Still (SiteWorld ω) (pagePlugin : SitePlugin ζ) := by
  intro below method params ctx
  change ∃ result outputs, below.run ((Bound.invoke PageCommand.run
    ⟨pageName, PageCommand.table, ()⟩ method params).andThen _) ctx = _
  rw [Bound.invoke]
  cases PageCommand.table.get method with
  | none => exact ⟨_, _, rfl⟩
  | some command => exact ⟨_, _, rfl⟩

theorem still_configPlugin (settings : List (Text × Text)) :
    Still (SiteWorld ω) (configPlugin settings : SitePlugin ζ) := by
  intro below method params ctx
  change ∃ result outputs, below.run ((Bound.invoke ConfigCommand.run
    ⟨configName, ConfigCommand.table, settings⟩ method params).andThen _) ctx = _
  rw [Bound.invoke]
  cases ConfigCommand.table.get method with
  | none => exact ⟨_, _, rfl⟩
  | some command => exact ⟨_, _, rfl⟩

end SitePlugin

namespace Project

open SitePlugin

variable {ζ ω : Type}

/-- The plugins of a project with none but its own. -/
def own (settings : List (Text × Text)) (loaded : Bool) : Registry (SitePlugin ζ) :=
  if loaded then builtIn.add ⟨configName, some (configPlugin settings), true⟩ rfl else builtIn

/-- The project of a configuration that keeps something. -/
def keeping (config : Config) (host : ω) (kept : Kept) : Project ζ ω where
  skin := config.skin
  notFound := config.notFound
  assets := ⟨config.rootPath, config.cssPath, config.jsPath⟩
  preload := config.load
  context :=
    { rootPath := config.rootPath
      baseDir := kept.baseDir
      registry := own config.settings kept.loaded
      catalog := [⟨configName, configPlugin config.settings, kept.loaded⟩]
      world := ⟨kept.page, host⟩ }

theorem new_eq_keeping (config : Config) (host : ω) :
    (new config host : Project ζ ω) = keeping config host .initial :=
  rfl

theorem names_own (settings : List (Text × Text)) (loaded : Bool) :
    (own settings loaded : Registry (SitePlugin ζ)).names =
      pageName :: if loaded then [configName] else [] := by
  cases loaded with
  | false => rfl
  | true => rfl

theorem mem_names_own (settings : List (Text × Text)) (loaded : Bool) :
    configName ∈ (own settings loaded : Registry (SitePlugin ζ)).names ↔ loaded := by
  have hne : configName ≠ pageName := by decide
  rw [names_own]
  cases loaded with
  | false => simp [hne]
  | true => simp

variable [HasDisk ω] [Offers ζ] [Handler ζ (SiteWorld ω)] (config : Config) (host : ω) (kept : Kept)
  (depth : Nat)

theorem still_keeping :
    (keeping config host kept : Project ζ ω).context.registry.Still (SiteWorld ω) := by
  have hpage : ∀ plugin : SitePlugin ζ, some pagePlugin = some plugin →
      Still (SiteWorld ω) plugin := by
    rintro _ ⟨⟩
    exact still_pagePlugin
  have hconfig : ∀ plugin : SitePlugin ζ, some (configPlugin config.settings) = some plugin →
      Still (SiteWorld ω) plugin := by
    rintro _ ⟨⟩
    exact still_configPlugin config.settings
  change ((own config.settings kept.loaded : Registry (SitePlugin ζ))).Still (SiteWorld ω)
  cases kept.loaded with
  | false => exact List.forall_mem_singleton.mpr hpage
  | true => exact List.forall_mem_cons.mpr ⟨hpage, List.forall_mem_singleton.mpr hconfig⟩

theorem render_keeping (text : Text) :
    ∃ result, (keeping config host kept : Project ζ ω).inContext (Context.render (depth + 1) text) =
      some (result, keeping config host kept) := by
  have hstill : (keeping config host kept : Project ζ ω).context.registry.Still (SiteWorld ω) :=
    still_keeping config host kept
  obtain ⟨result, hrender⟩ := Context.render_of_still hstill depth text
  refine ⟨result.mapError .render, ?_⟩
  rw [inContext, hrender]
  rfl

theorem load_config :
    (keeping config host kept : Project ζ ω).inContext (Context.load (depth + 2) configName) =
      some (.ok (), keeping config host { kept with loaded := true }) := by
  obtain ⟨loaded, baseDir, page⟩ := kept
  cases loaded with
  | false => rfl
  | true => rfl

theorem load_page :
    (keeping config host kept : Project ζ ω).inContext (Context.load (depth + 2) pageName) =
      some (.ok (), keeping config host kept) := by
  obtain ⟨loaded, baseDir, page⟩ := kept
  cases loaded with
  | false => rfl
  | true => rfl

theorem load_unknown {name : Text} (hconfig : name ≠ configName) (hpage : name ≠ pageName) :
    (keeping config host kept : Project ζ ω).inContext (Context.load (depth + 2) name) =
      some (.error (.render (.unknownPlugin name)), keeping config host kept) := by
  have hcatalog :
      (keeping config host kept : Project ζ ω).context.catalog.activate? name = none := by
    simp [keeping, Catalog.activate?, Catalog.contains, Ne.symm hconfig]
  have hregistry :
      (keeping config host kept : Project ζ ω).context.registry.contains name = false := by
    rw [Bool.eq_false_iff, ne_eq, Registry.contains_iff_mem_names]
    change name ∉ (own config.settings kept.loaded).names
    rw [names_own]
    split <;> simp [hconfig, hpage]
  rw [inContext, Context.load, Engine.load]
  simp [hcatalog, hregistry]
  rfl

/-- What comes of loading plugins one after another does not depend on what is kept. -/
theorem loadAll_keeping (names : List Text) :
    ∃ result : Except SiteError Unit, ∀ kept, ∃ loaded,
      loadAll (depth + 2) names (keeping config host kept : Project ζ ω) =
        some (result, keeping config host { kept with loaded }) ∧
      (result = .ok () → (loaded ↔ kept.loaded ∨ configName ∈ names)) := by
  induction names with
  | nil => exact ⟨.ok (), fun kept => ⟨kept.loaded, rfl, fun _ => by simp⟩⟩
  | cons name rest ih =>
    obtain ⟨result, hrest⟩ := ih
    by_cases hconfig : name = configName
    · subst hconfig
      refine ⟨result, fun kept => ?_⟩
      obtain ⟨loaded, hload, hloaded⟩ := hrest { kept with loaded := true }
      refine ⟨loaded, ?_, fun hresult => ?_⟩
      · rw [loadAll, load_config]
        exact hload
      · rw [hloaded hresult]
        simp
    · by_cases hpage : name = pageName
      · subst hpage
        refine ⟨result, fun kept => ?_⟩
        obtain ⟨loaded, hload, hloaded⟩ := hrest kept
        refine ⟨loaded, ?_, fun hresult => ?_⟩
        · rw [loadAll, load_page]
          exact hload
        · rw [hloaded hresult, List.mem_cons]
          simp [Ne.symm hconfig]
      · refine ⟨.error (.render (.unknownPlugin name)), fun kept => ⟨kept.loaded, ?_, ?_⟩⟩
        · rw [loadAll, load_unknown config host kept depth hconfig hpage]
          rfl
        · intro hresult
          cases hresult

theorem renderTitle_keeping :
    ∃ result, renderTitle (depth + 1) (keeping config host kept : Project ζ ω) =
      some (result, keeping config host kept) := by
  rw [renderTitle]
  cases (keeping config host kept : Project ζ ω).page.title with
  | none => exact ⟨_, rfl⟩
  | some title =>
    obtain ⟨result, hrender⟩ := render_keeping (ζ := ζ) config host kept depth title
    simp only [hrender]
    cases result with
    | error cause => exact ⟨_, rfl⟩
    | ok title => exact ⟨_, rfl⟩

/-- A page is rendered, or fails to be, whatever the last one has left. -/
theorem renderPage_keeping (page : Page) (loaded : Bool) :
    ∃ result page', ∀ baseDir old,
      renderPage (depth + 1) page (keeping config host ⟨loaded, baseDir, old⟩ : Project ζ ω) =
        some (result, keeping config host ⟨loaded, page.baseDir, page'⟩) := by
  obtain ⟨content, hcontent⟩ :=
    render_keeping (ζ := ζ) config host ⟨loaded, page.baseDir, page⟩ depth page.content
  obtain ⟨title, htitle⟩ :=
    renderTitle_keeping (ζ := ζ) config host ⟨loaded, page.baseDir, page⟩ depth
  -- the page and its directory are put in the places of the old ones before anything is rendered
  have hset : ∀ baseDir old,
      renderPage (depth + 1) page (keeping config host ⟨loaded, baseDir, old⟩ : Project ζ ω) =
        ((keeping config host ⟨loaded, page.baseDir, page⟩ : Project ζ ω).inContext
          (Context.render (depth + 1) page.content)).andThen fun content project =>
            (renderTitle (depth + 1) project).andThen fun title project =>
              some (.ok (), project.setPage
                { project.page with content, title := title <|> project.page.title }) :=
    fun _ _ => rfl
  cases content with
  | error cause =>
    refine ⟨.error cause, page, fun baseDir old => ?_⟩
    rw [hset, hcontent]
    rfl
  | ok content =>
    cases title with
    | error cause =>
      refine ⟨.error cause, page, fun baseDir old => ?_⟩
      rw [hset, hcontent]
      simp only [Outcome.andThen, Option.bind_some, htitle]
    | ok title =>
      refine ⟨.ok (), { page with content, title := title <|> page.title }, fun baseDir old => ?_⟩
      rw [hset, hcontent]
      simp only [Outcome.andThen, Option.bind_some, htitle]
      rfl

theorem renderSkin_keeping :
    ∃ result, renderSkin (depth + 1) (keeping config host kept : Project ζ ω) =
      some (result, keeping config host kept) := by
  rw [renderSkin]
  split
  · exact ⟨_, rfl⟩
  · exact render_keeping config host kept depth _

end Project

end Stencil
