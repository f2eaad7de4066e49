import Stencil.Plugin.Scripted
import Stencil.Proofs.Run.Busy
import Stencil.Proofs.Run.World
import Stencil.Site.Project

namespace Stencil

namespace SitePlugin

variable {ζ ω : Type} [Offers ζ] [Handler ζ (SiteWorld ω)]

/-- `Page` and `Config` change nothing, so what the plugins of a site change stands in the code of a
guest. -/
theorem changes_of_changes {change : SiteWorld ω → SiteWorld ω}
    (hchanges : Handler.Changes (SitePlugin ζ) change) : Handler.Changes ζ change := by
  obtain ⟨plugin, ⟨method, params, hinvoke⟩ | hloaded⟩ := hchanges
  · cases plugin with
    | page plugin =>
      obtain ⟨command, view, hend⟩ :=
        Bound.changes_invoke (Script.changes_of_andThen (fun _ => id) hinvoke)
      exact hend.elim
    | config plugin =>
      obtain ⟨command, hend⟩ :=
        Bound.changes_invoke (Script.changes_of_andThen (fun _ => id) hinvoke)
      exact hend.elim
    | guest plugin =>
      have hguest := Script.changes_embed (Script.changes_of_andThen (fun _ => id) hinvoke)
      exact ⟨plugin, .inl ⟨method, params, hguest⟩⟩
  · cases plugin with
    | page plugin | config plugin => exact hloaded.elim
    | guest plugin =>
      have hguest := Script.changes_embed (Script.changes_of_andThen (fun _ => id) hloaded)
      exact ⟨plugin, .inr hguest⟩

end SitePlugin

/-- What may become of the page that is served when guests are run that were given it: they make the
changes that stand in their code. -/
def Page.Edited (ζ ω : Type) [Offers ζ] [Handler ζ (SiteWorld ω)] : Page → Page → Prop :=
  Relation.ReflTransGen fun page page' =>
    ∃ (change : SiteWorld ω → SiteWorld ω) (world : SiteWorld ω),
      Handler.Changes ζ change ∧ world.page = page ∧ page' = (change world).page

namespace Page.Edited

variable {ζ ω : Type} [Offers ζ] [Handler ζ (SiteWorld ω)]

theorem of_evolves [HasDisk ω] {world world' : SiteWorld ω}
    (hevolves : Handler.Evolves (SitePlugin ζ) world world') :
    Page.Edited ζ ω world.page world'.page := by
  induction hevolves with
  | refl => exact .refl
  | tail hbefore hlast ih =>
    rcases hlast with ⟨path, rfl⟩ | ⟨change, hchanges, rfl⟩
    · exact ih
    · exact ih.tail ⟨change, _, SitePlugin.changes_of_changes hchanges, rfl, rfl⟩

end Page.Edited

namespace Project

variable {ζ ω : Type}

/-- The project when a page and its directory have taken the places of the old ones. -/
def withPage (page : Page) (project : Project ζ ω) : Project ζ ω :=
  setPage { project with context := { project.context with baseDir := page.baseDir } } page

section Continues

variable [Offers ζ] [Handler ζ (SiteWorld ω)] {project project' project'' : Project ζ ω}

/-- A project after operations in its context: what it was made with is as before, the page that it
serves has been edited by guests at most, and no plugin is left running. -/
structure Continues (project project' : Project ζ ω) : Prop where
  made : project' = { project with context := project'.context }
  page : Page.Edited ζ ω project.page project'.page
  idle : project.context.Idle → project'.context.Idle

theorem Continues.refl (project : Project ζ ω) : project.Continues project :=
  ⟨rfl, .refl, id⟩

theorem Continues.trans (hfirst : project.Continues project')
    (hsecond : project'.Continues project'') : project.Continues project'' where
  made := by
    rw [hsecond.made, hfirst.made]
  page := hfirst.page.trans hsecond.page
  idle := fun hidle => hsecond.idle (hfirst.idle hidle)

end Continues

variable {project project' : Project ζ ω} {depth : Nat}

/-- Operations one after the other end where the first one fails, or where the second one ends. -/
theorem andThen_eq_some_iff {α β : Type} {outcome : Outcome ζ ω α}
    {next : α → Project ζ ω → Outcome ζ ω β} {result : Except SiteError β} :
    outcome.andThen next = some (result, project') ↔
      (∃ cause, outcome = some (.error cause, project') ∧ result = .error cause) ∨
        ∃ a between, outcome = some (.ok a, between) ∧
          next a between = some (result, project') := by
  rw [Outcome.andThen, Option.bind_eq_some_iff]
  constructor
  · rintro ⟨⟨cause | a, between⟩, houtcome, hnext⟩
    · cases hnext
      exact .inl ⟨cause, houtcome, rfl⟩
    · exact .inr ⟨a, between, houtcome, hnext⟩
  · rintro (⟨cause, houtcome, rfl⟩ | ⟨a, between, houtcome, hnext⟩)
    · exact ⟨_, houtcome, rfl⟩
    · exact ⟨_, houtcome, hnext⟩

section InContext

variable {α : Type} {operation : Context (SitePlugin ζ) (SiteWorld ω) →
  Stencil.Outcome (SitePlugin ζ) (SiteWorld ω) α}

theorem inContext_eq_some_iff {result : Except SiteError α} :
    project.inContext operation = some (result, project') ↔
      ∃ answer context, operation project.context = some (answer, context) ∧
        result = answer.mapError .render ∧ project' = { project with context } := by
  rw [inContext, Option.map_eq_some_iff]
  constructor
  · rintro ⟨⟨answer, context⟩, hoperation, heq⟩
    cases heq
    exact ⟨answer, context, hoperation, rfl, rfl⟩
  · rintro ⟨answer, context, hoperation, rfl, rfl⟩
    exact ⟨_, hoperation, rfl⟩

theorem of_inContext_eq_ok {a : α} (hok : project.inContext operation = some (.ok a, project')) :
    operation project.context = some (.ok a, project'.context) := by
  obtain ⟨answer, context, hoperation, hanswer, rfl⟩ := inContext_eq_some_iff.mp hok
  cases answer with
  | error cause => cases hanswer
  | ok a' =>
    cases hanswer
    exact hoperation

/-- What fails in the context of a project, fails for a cause of the context. -/
theorem of_inContext_eq_error {cause : SiteError}
    (hfails : project.inContext operation = some (.error cause, project')) :
    ∃ cause', cause = .render cause' := by
  obtain ⟨answer, context, -, hanswer, -⟩ := inContext_eq_some_iff.mp hfails
  cases answer with
  | error cause' =>
    cases hanswer
    exact ⟨cause', rfl⟩
  | ok a => cases hanswer

end InContext

variable [HasDisk ω] [Offers ζ] [Handler ζ (SiteWorld ω)]

theorem continues_load {name : Text} {result : Except SiteError Unit}
    (hload : project.inContext (Context.load depth name) = some (result, project')) :
    project.Continues project' := by
  obtain ⟨answer, context, hloaded, rfl, rfl⟩ := inContext_eq_some_iff.mp hload
  exact ⟨rfl, .of_evolves ((Engine.evolves_engine depth).load hloaded),
    fun hidle => hidle.run (Context.run_load hloaded)⟩

theorem continues_render {text : Text} {result : Except SiteError Text}
    (hrender : project.inContext (Context.render depth text) = some (result, project')) :
    project.Continues project' := by
  obtain ⟨answer, context, hrendered, rfl, rfl⟩ := inContext_eq_some_iff.mp hrender
  exact ⟨rfl, .of_evolves ((Engine.evolves_engine depth).render hrendered),
    fun hidle => hidle.run (Context.run_render hrendered)⟩

theorem loadAll_ends {names : List Text} {result : Except SiteError Unit}
    (hload : loadAll depth names project = some (result, project')) :
    project.Continues project' ∧ (result = .ok () ∨ ∃ cause, result = .error (.render cause)) := by
  induction names generalizing project with
  | nil =>
    cases hload
    exact ⟨.refl _, .inl rfl⟩
  | cons name rest ih =>
    rw [loadAll] at hload
    rcases andThen_eq_some_iff.mp hload with ⟨cause, hfirst, rfl⟩ | ⟨⟨⟩, between, hfirst, hrest⟩
    · obtain ⟨cause', rfl⟩ := of_inContext_eq_error hfirst
      exact ⟨continues_load hfirst, .inr ⟨cause', rfl⟩⟩
    · obtain ⟨hcontinues, hresult⟩ := ih hrest
      exact ⟨(continues_load hfirst).trans hcontinues, hresult⟩

/-- Whether a page becomes another one when its content and then its title are rendered, the title
only if there is one. A render may leave another page to go on from, the same up to a relation; the
title is that of the page which is `served` when the content has been rendered. -/
def RendersTo (same : Page → Page → Prop) (depth : Nat) (page served rendered : Page)
    (ctx : Context (SitePlugin ζ) (SiteWorld ω)) : Prop :=
  ∃ content between, ctx.render depth page.content = some (.ok content, between) ∧
    between.world.page = served ∧ same page served ∧
    match served.title with
    | none => rendered = { served with content }
    | some title => ∃ text after, between.render depth title = some (.ok text, after) ∧
      same served after.world.page ∧
      rendered = { after.world.page with content, title := some text }

namespace RendersTo

variable {same same' : Page → Page → Prop} {page served rendered : Page}
  {ctx : Context (SitePlugin ζ) (SiteWorld ω)}

theorem isSome_title (hrenders : RendersTo same depth page served rendered ctx) :
    rendered.title.isSome = served.title.isSome := by
  obtain ⟨content, between, -, -, -, htitle⟩ := hrenders
  cases hserved : served.title with
  | none =>
    simp only [hserved] at htitle
    rw [htitle]
  | some title =>
    simp only [hserved] at htitle
    obtain ⟨text, after, -, -, hrendered⟩ := htitle
    rw [hrendered]
    rfl

theorem mono (hmono : ∀ page page', same page page' → same' page page')
    (hrenders : RendersTo same depth page served rendered ctx) :
    RendersTo same' depth page served rendered ctx := by
  obtain ⟨content, between, hcontent, hbetween, hsame, htitle⟩ := hrenders
  refine ⟨content, between, hcontent, hbetween, hmono _ _ hsame, ?_⟩
  cases hserved : served.title with
  | none => simpa only [hserved] using htitle
  | some title =>
    simp only [hserved] at htitle
    obtain ⟨text, after, hrender, hafter, hrendered⟩ := htitle
    exact ⟨text, after, hrender, hmono _ _ hafter, hrendered⟩

end RendersTo

/-- The title of a page without one is left out, and any other is rendered or fails to be. -/
theorem renderTitle_ends {result : Except SiteError (Option Text)}
    (hrender : renderTitle depth project = some (result, project')) :
    project.Continues project' ∧
      ((∃ cause, result = .error (.render cause)) ∨
        (project.page.title = none ∧ result = .ok none ∧ project' = project) ∨
        ∃ title text, project.page.title = some title ∧ result = .ok (some text) ∧
          project.context.render depth title = some (.ok text, project'.context)) := by
  rw [renderTitle] at hrender
  cases htitle : project.page.title with
  | none =>
    simp only [htitle] at hrender
    cases hrender
    exact ⟨.refl _, .inr (.inl ⟨rfl, rfl, rfl⟩)⟩
  | some title =>
    simp only [htitle] at hrender
    rcases andThen_eq_some_iff.mp hrender with ⟨cause, htext, rfl⟩ | ⟨text, after, htext, heq⟩
    · obtain ⟨cause', rfl⟩ := of_inContext_eq_error htext
      exact ⟨continues_render htext, .inl ⟨cause', rfl⟩⟩
    · cases heq
      exact ⟨continues_render htext,
        .inr (.inr ⟨title, text, rfl, rfl, of_inContext_eq_ok htext⟩)⟩

/-- A page that could not be rendered is served as it was loaded; one that was rendered is served
with both, its content and its title, rendered. -/
theorem renderPage_ends {page : Page} {result : Except SiteError Unit}
    (hpage : renderPage depth page project = some (result, project')) :
    ((∃ cause, result = .error (.render cause)) ∧ (project.withPage page).Continues project') ∨
      (result = .ok () ∧ ∃ served rendered between, (project.withPage page).Continues between ∧
        RendersTo (Page.Edited ζ ω) depth page served rendered (project.withPage page).context ∧
        project' = between.setPage rendered) := by
  rw [renderPage] at hpage
  rcases andThen_eq_some_iff.mp hpage with
    ⟨cause, hcontent, rfl⟩ | ⟨content, first, hcontent, hpage⟩
  · obtain ⟨cause', rfl⟩ := of_inContext_eq_error hcontent
    exact .inl ⟨⟨cause', rfl⟩, continues_render hcontent⟩
  have hfirst : (project.withPage page).Continues first := continues_render hcontent
  have hrenders := of_inContext_eq_ok hcontent
  rcases andThen_eq_some_iff.mp hpage with ⟨cause, htitle, rfl⟩ | ⟨title?, second, htitle, heq⟩
  · obtain ⟨hsecond, ⟨cause', hcause⟩ | ⟨-, hcause, -⟩ | ⟨_, _, -, hcause, -⟩⟩ :=
      renderTitle_ends htitle
    · cases hcause
      exact .inl ⟨⟨cause', rfl⟩, hfirst.trans hsecond⟩
    · cases hcause
    · cases hcause
  cases heq
  obtain ⟨hsecond, ⟨cause', hgiven⟩ | ⟨hnone, hgiven, rfl⟩ | ⟨title, text, hsome, hgiven, htext⟩⟩ :=
    renderTitle_ends htitle
  · cases hgiven
  · cases hgiven
    refine .inr ⟨rfl, second.page, _, second, hfirst,
      ⟨content, _, hrenders, rfl, hfirst.page, ?_⟩, rfl⟩
    simp only [hnone]
    rfl
  · cases hgiven
    refine .inr ⟨rfl, first.page, _, second, hfirst.trans hsecond,
      ⟨content, _, hrenders, rfl, hfirst.page, ?_⟩, rfl⟩
    simp only [hsome]
    exact ⟨text, _, htext, hsecond.page, rfl⟩

theorem renderSkin_ends {result : Except SiteError Text}
    (hskin : renderSkin depth project = some (result, project')) :
    project.Continues project' ∧
      ((∃ body, result = .ok body) ∨ (∃ cause, result = .error (.render cause)) ∨
        ∃ cause, result = .error (.unreadableSkin project.skin cause)) := by
  rw [renderSkin] at hskin
  cases hread : project.disk.get project.skin with
  | error cause =>
    simp only [hread] at hskin
    cases hskin
    exact ⟨.refl _, .inr (.inr ⟨cause, rfl⟩)⟩
  | ok skin =>
    simp only [hread] at hskin
    refine ⟨continues_render hskin, ?_⟩
    cases result with
    | ok body => exact .inl ⟨body, rfl⟩
    | error cause =>
      obtain ⟨cause', rfl⟩ := of_inContext_eq_error hskin
      exact .inr (.inl ⟨cause', rfl⟩)

omit [Offers ζ] [Handler ζ (SiteWorld ω)] in
/-- A page that cannot be had is missing for a cause of its own, and one that can be had is never
the answer of a server error. -/
theorem requested_ends {path : Text} {requested : Except SiteError (Status × Page)}
    (hrequested : project.requested path = requested) :
    (∃ status page, requested = .ok (status, page) ∧ status ≠ .serverError) ∨
      (∃ file cause, requested = .error (.unreadablePage file cause)) ∨
      ∃ cause, requested = .error (.document cause) := by
  have hfile : ∀ (status : Status) (file : Text), status ≠ .serverError →
      (Page.ofFile project.assets project.disk file).map (fun page => (status, page)) = requested →
      (∃ status page, requested = .ok (status, page) ∧ status ≠ .serverError) ∨
        (∃ file cause, requested = .error (.unreadablePage file cause)) ∨
        ∃ cause, requested = .error (.document cause) := by
    rintro status file hstatus rfl
    rw [Page.ofFile]
    cases project.disk.get file with
    | error cause => exact .inr (.inl ⟨file, cause, rfl⟩)
    | ok document =>
      cases hdocument : Page.ofDocument project.assets document with
      | error cause =>
        simp only [hdocument]
        exact .inr (.inr ⟨cause, rfl⟩)
      | ok page =>
        simp only [hdocument]
        exact .inl ⟨status, _, rfl, hstatus⟩
  rw [Project.requested] at hrequested
  split at hrequested
  · exact hfile .ok path (by decide) hrequested
  split at hrequested
  · exact hfile .notFound project.notFound (by decide) hrequested
  · exact .inl ⟨.notFound, Page.empty, hrequested.symm, by decide⟩

/-- Without a skin nothing is done. -/
theorem process_of_no_skin {path : Text} (hskin : project.disk.isFile project.skin = false) :
    project.process depth path = some (.ok ⟨.serverError, Response.noSkin⟩, project) := by
  rw [process, hskin]
  rfl

/-- Where the page cannot be had, nothing is done. -/
theorem process_of_no_page {path : Text} {cause : SiteError}
    (hskin : project.disk.isFile project.skin)
    (hrequested : project.requested path = .error cause) :
    project.process depth path = some (.error cause, project) := by
  rw [process, hskin, hrequested]
  rfl

/-- Where the page can be had, plugins are loaded, and the rest follows if that succeeds. -/
theorem process_of_page {path : Text} {status : Status} {page : Page}
    (hskin : project.disk.isFile project.skin)
    (hrequested : project.requested path = .ok (status, page)) :
    project.process depth path =
      (loadAll depth (project.preload ++ page.plugins) project).andThen fun _ project =>
        (renderPage depth page project).andThen fun _ project =>
          (renderSkin depth project).andThen fun body project =>
            some (.ok ⟨status, body⟩, project) := by
  rw [process, hskin, hrequested]
  rfl

/-- What becomes of a page once the plugins have been loaded. -/
structure Served (depth : Nat) (status : Status) (page : Page) (loaded project' : Project ζ ω)
    (result : Except SiteError Response) : Prop where
  idle : loaded.context.Idle → project'.context.Idle
  page : (Page.Edited ζ ω page project'.page ∧ ∃ cause, result = .error (.render cause)) ∨
    ((∃ served rendered,
        RendersTo (Page.Edited ζ ω) depth page served rendered (loaded.withPage page).context ∧
        Page.Edited ζ ω rendered project'.page) ∧
      ((∃ body, result = .ok ⟨status, body⟩) ∨ (∃ cause, result = .error (.render cause)) ∨
        ∃ cause, result = .error (.unreadableSkin loaded.skin cause)))

theorem served {status : Status} {page : Page} {result : Except SiteError Response}
    (hserve : ((renderPage depth page project).andThen fun _ project =>
      (renderSkin depth project).andThen fun body project =>
        some (.ok ⟨status, body⟩, project)) = some (result, project')) :
    Served depth status page project project' result := by
  rcases andThen_eq_some_iff.mp hserve with ⟨cause, hpage, rfl⟩ | ⟨⟨⟩, rendered, hpage, hserve⟩
  · rcases renderPage_ends hpage with ⟨⟨cause', heq⟩, hcontinues⟩ | ⟨heq, -⟩
    · cases heq
      exact ⟨hcontinues.idle, .inl ⟨hcontinues.page, cause', rfl⟩⟩
    · cases heq
  rcases renderPage_ends hpage with
    ⟨⟨cause', heq⟩, -⟩ | ⟨-, served, page', between, hcontinues, hrenders, rfl⟩
  · cases heq
  -- the context that the page was rendered in is left with the rendered page, and no plugin running
  have hskin : (between.setPage page').skin = project.skin := by
    rw [hcontinues.made]
    rfl
  have hidle : project.context.Idle → (between.setPage page').context.Idle := hcontinues.idle
  rcases andThen_eq_some_iff.mp hserve with ⟨cause, hbody, rfl⟩ | ⟨body, after, hbody, heq⟩
  · obtain ⟨hafter, hbody⟩ := renderSkin_ends hbody
    refine ⟨fun h => hafter.idle (hidle h), .inr ⟨⟨served, page', hrenders, hafter.page⟩, .inr ?_⟩⟩
    rcases hbody with ⟨body, heq⟩ | ⟨cause', heq⟩ | ⟨cause', heq⟩
    · cases heq
    · cases heq
      exact .inl ⟨cause', rfl⟩
    · cases heq
      exact .inr ⟨cause', by rw [hskin]⟩
  · cases heq
    have hafter := (renderSkin_ends hbody).1
    exact ⟨fun h => hafter.idle (hidle h),
      .inr ⟨⟨served, page', hrenders, hafter.page⟩, .inl ⟨body, rfl⟩⟩⟩

/-- The states that a project can come to: it answers requests, however they end, and between two
requests the host does what it likes in the context, to the page and to the files. -/
inductive Reachable (config : Config) (catalog : Catalog ζ) : Project ζ ω → Prop
  | made (host : ω) : Reachable config catalog (withCatalog config catalog host)
  | request {project project' : Project ζ ω} {depth : Nat} {path : Text}
      {result : Except SiteError Response} (hreach : Reachable config catalog project)
      (hprocess : project.process depth path = some (result, project')) :
      Reachable config catalog project'
  | host {project : Project ζ ω} {depth : Nat} {α : Type}
      {operations : Hook (SitePlugin ζ) (SiteWorld ω) α} {a : α}
      {context : Context (SitePlugin ζ) (SiteWorld ω)} (hreach : Reachable config catalog project)
      (hrun : project.context.run depth operations = some (a, context)) :
      Reachable config catalog { project with context }

theorem idle_of_process {path : Text} {result : Except SiteError Response}
    (hidle : project.context.Idle)
    (hprocess : project.process depth path = some (result, project')) : project'.context.Idle := by
  cases hskin : project.disk.isFile project.skin with
  | false =>
    rw [process_of_no_skin hskin] at hprocess
    cases hprocess
    exact hidle
  | true =>
    cases hrequested : project.requested path with
    | error cause =>
      rw [process_of_no_page hskin hrequested] at hprocess
      cases hprocess
      exact hidle
    | ok answer =>
      obtain ⟨status, page⟩ := answer
      rw [process_of_page hskin hrequested] at hprocess
      rcases andThen_eq_some_iff.mp hprocess with ⟨cause, hload, -⟩ | ⟨⟨⟩, loaded, hload, hserve⟩
      · exact (loadAll_ends hload).1.idle hidle
      · exact (served hserve).idle ((loadAll_ends hload).1.idle hidle)

theorem Reachable.idle {config : Config} {catalog : Catalog ζ}
    (hreach : Reachable config catalog project) : project.context.Idle := by
  induction hreach with
  | made host => rfl
  | request hreach hprocess ih => exact idle_of_process ih hprocess
  | host hreach hrun ih => exact ih.run hrun

/-- Where the page can be had, no failure is one of the page, and no answer a server error. -/
theorem not_early_of_page {path : Text} {status : Status} {page : Page}
    {result : Except SiteError Response} (hskin : project.disk.isFile project.skin)
    (hrequested : project.requested path = .ok (status, page)) (hstatus : status ≠ .serverError)
    (hprocess : project.process depth path = some (result, project')) :
    ¬ ((∃ response, result = .ok response ∧ response.status = .serverError) ∨
      (∃ file cause, result = .error (.unreadablePage file cause)) ∨
        ∃ cause, result = .error (.document cause)) := by
  rw [process_of_page hskin hrequested] at hprocess
  rcases andThen_eq_some_iff.mp hprocess with
    ⟨cause, hload, rfl⟩ | ⟨⟨⟩, loaded, hload, hserve⟩
  · rcases (loadAll_ends hload).2 with heq | ⟨cause', heq⟩
    · cases heq
    · cases heq
      simp
  · rcases (served hserve).page with
      ⟨-, cause, rfl⟩ | ⟨-, ⟨body, rfl⟩ | ⟨cause, rfl⟩ | ⟨cause, rfl⟩⟩
    · simp
    · simp [hstatus]
    · simp
    · simp

/-- How a request ends, where pages are told apart up to a relation. After it no plugin is left
running. Where the answer is a server error, or the page cannot be read, the project is as it was,
and the outcome is the same whatever the code of the guests and however little of it may be run:
none of it was. Where a plugin cannot be loaded, the request fails with the cause, and the page from
before is served. Once the plugins are loaded, it is the requested page that is served, or the one
for missing pages: as it was loaded, where its content or its title could not be rendered, and else
with content and title both rendered; so it is where the request is answered, and where the skin
fails. A page without a title is left without one. -/
structure Exits (same : Page → Page → Prop) (depth : Nat) (path : Text)
    (project project' : Project ζ ω) (result : Except SiteError Response) : Prop where
  idle : project'.context.registry.busyNames = []
  early : ((∃ response, result = .ok response ∧ response.status = .serverError) ∨
      (∃ file cause, result = .error (.unreadablePage file cause)) ∨
      ∃ cause, result = .error (.document cause)) →
    project' = project ∧
    ∀ (others : Handler ζ (SiteWorld ω)) (shallow : Nat),
      @process ζ ω _ _ others shallow path project = some (result, project)
  noSkin : project.disk.isFile project.skin = false →
    result = .ok ⟨.serverError, Response.noSkin⟩
  noPage : project.disk.isFile project.skin → ∀ cause, project.requested path = .error cause →
    result = .error cause
  page : project.disk.isFile project.skin →
    ∀ status page, project.requested path = .ok (status, page) → ∃ outcome loaded,
      loadAll depth (project.preload ++ page.plugins) project = some (outcome, loaded) ∧
      (∀ cause, outcome = .error cause →
        result = .error cause ∧ project' = loaded ∧ same project.page project'.page) ∧
      (outcome = .ok () →
        (same page project'.page ∧ ∃ cause, result = .error (.render cause)) ∨
        ((∃ served rendered,
            RendersTo same depth page served rendered (loaded.withPage page).context ∧
            rendered.title.isSome = served.title.isSome ∧ same rendered project'.page) ∧
          ((∃ body, result = .ok ⟨status, body⟩) ∨ (∃ cause, result = .error (.render cause)) ∨
            ∃ cause, result = .error (.unreadableSkin project.skin cause))))

theorem Exits.mono {same same' : Page → Page → Prop} {path : Text}
    {result : Except SiteError Response}
    (hmono : ∀ page page', same page page' → same' page page')
    (hexits : Exits same depth path project project' result) :
    Exits same' depth path project project' result := by
  refine ⟨hexits.idle, hexits.early, hexits.noSkin, hexits.noPage, ?_⟩
  intro hskin status page hpage
  obtain ⟨outcome, loaded, hload, hfails, hserves⟩ := hexits.page hskin status page hpage
  refine ⟨outcome, loaded, hload, fun cause hcause => ?_, fun hok => ?_⟩
  · obtain ⟨hresult, hproject, hsame⟩ := hfails cause hcause
    exact ⟨hresult, hproject, hmono _ _ hsame⟩
  · rcases hserves hok with
      ⟨hsame, hresult⟩ | ⟨⟨served, rendered, hrenders, htitle, hsame⟩, hends⟩
    · exact .inl ⟨hmono _ _ hsame, hresult⟩
    · exact .inr ⟨⟨served, rendered, hrenders.mono hmono, htitle, hmono _ _ hsame⟩, hends⟩

theorem exits_edited {config : Config} {catalog : Catalog ζ} {path : Text}
    {result : Except SiteError Response} (hreach : Reachable config catalog project)
    (hprocess : project.process depth path = some (result, project')) :
    Exits (Page.Edited ζ ω) depth path project project' result where
  idle := idle_of_process hreach.idle hprocess
  early := by
    intro hearly
    cases hskin : project.disk.isFile project.skin with
    | false =>
      rw [process_of_no_skin hskin] at hprocess
      cases hprocess
      exact ⟨rfl, fun others shallow => process_of_no_skin hskin⟩
    | true =>
      rcases requested_ends (rfl : project.requested path = _) with
        ⟨status, page, hrequested, hstatus⟩ | hfails
      · exact (not_early_of_page hskin hrequested hstatus hprocess hearly).elim
      · obtain ⟨cause, hrequested⟩ : ∃ cause, project.requested path = .error cause := by
          rcases hfails with ⟨file, cause, hrequested⟩ | ⟨cause, hrequested⟩
          · exact ⟨_, hrequested⟩
          · exact ⟨_, hrequested⟩
        rw [process_of_no_page hskin hrequested] at hprocess
        cases hprocess
        exact ⟨rfl, fun others shallow => process_of_no_page hskin hrequested⟩
  noSkin := by
    intro hskin
    rw [process_of_no_skin hskin] at hprocess
    cases hprocess
    rfl
  noPage := by
    intro hskin cause hrequested
    rw [process_of_no_page hskin hrequested] at hprocess
    cases hprocess
    rfl
  page := by
    intro hskin status page hrequested
    rw [process_of_page hskin hrequested] at hprocess
    rcases andThen_eq_some_iff.mp hprocess with ⟨cause, hload, rfl⟩ | ⟨⟨⟩, loaded, hload, hserve⟩
    · refine ⟨_, _, hload, fun cause' heq => ?_, nofun⟩
      cases heq
      exact ⟨rfl, rfl, (loadAll_ends hload).1.page⟩
    · refine ⟨_, loaded, hload, nofun, fun _ => ?_⟩
      have hmade : loaded.skin = project.skin := by
        rw [(loadAll_ends hload).1.made]
      rcases (served hserve).page with hasLoaded | ⟨⟨served, rendered, hrenders, hedited⟩, hends⟩
      · exact .inl hasLoaded
      · rw [hmade] at hends
        exact .inr ⟨⟨served, rendered, hrenders, hrenders.isSome_title, hedited⟩, hends⟩

/-- A guest that was given the page: when it is loaded, it puts a title into it. -/
structure Titling where
  title : Text

instance : Offers Titling where
  offer _ := ⟨[], fun _ => false⟩

instance {ω : Type} : Handler Titling (SiteWorld ω) where
  invoke guest _ _ := pure (guest, .ok [])
  loaded guest :=
    .update (fun world => { world with page := { world.page with title := some guest.title } })
      (pure (guest, .ok ()))

/-- Where a guest edits the page, it stays edited, although a later plugin cannot be loaded and the
request leaves the page from before. -/
theorem exits_edited_while_loading :
    let disk : Disk :=
      ⟨['/'], fun path => if path = ['s'] then .ok (.file none) else .error .missing⟩
    let config : Config := ⟨['/'], ['s'], ['n'], [], [], [['A'], ['X']], [], none⟩
    let catalog : Catalog Titling := .offering [(['A'], ⟨['t']⟩)]
    let project : Project Titling Disk := withCatalog config catalog disk
    ∃ project',
      project.process 2 ['p'] = some (.error (.render (.unknownPlugin ['X'])), project') ∧
      Page.Edited Titling Disk project.page project'.page ∧
      project.page.title = some [] ∧ project'.page.title = some ['t'] := by
  intro disk config catalog project
  have hends : (project.process 2 ['p']).map (fun (result, project') =>
      (result, project'.page.title)) =
    some (.error (.render (.unknownPlugin ['X'])), some ['t']) := by rfl
  obtain ⟨⟨result, project'⟩, hprocess, hends⟩ := Option.map_eq_some_iff.mp hends
  obtain ⟨rfl, htitle⟩ : result = .error (.render (.unknownPlugin ['X'])) ∧
      project'.page.title = some ['t'] := by
    simpa using hends
  obtain ⟨outcome, loaded, hload, hfails, -⟩ :=
    (exits_edited (.made disk : Reachable config catalog project) hprocess).page rfl _ _ rfl
  have houtcome : outcome = .error (.render (.unknownPlugin ['X'])) := by
    cases hload
    rfl
  exact ⟨project', hprocess, (hfails _ houtcome).2.2, rfl, htitle⟩

end Project

end Stencil
