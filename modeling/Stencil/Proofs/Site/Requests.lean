import Stencil.Proofs.Site.Kept

namespace Stencil.Project

open SitePlugin

variable {ζ ω : Type}

/-- The project with other files before it. -/
def setHost (project : Project ζ ω) (host : ω) : Project ζ ω :=
  { project with
    context := { project.context with world := { project.context.world with host } } }

variable [HasDisk ω] [Offers ζ] [Handler ζ (SiteWorld ω)]

/-- What becomes of a project by requests, each of which finds files of its own. -/
def serve (depth : Nat) : List (ω × Text) → Project ζ ω → Option (Project ζ ω)
  | [], project => some project
  | (host, path) :: rest, project =>
    ((project.setHost host).process depth path).bind fun (_, project) => serve depth rest project

variable (config : Config) (host : ω) (depth : Nat) (path : Text)

/-- Renders a page that has been read, and the skin. -/
def respond (depth : Nat) (status : Status) (page : Page) (project : Project ζ ω) :
    Outcome ζ ω Response :=
  (renderPage depth page project).andThen fun _ project =>
    (renderSkin depth project).andThen fun body project => some (.ok ⟨status, body⟩, project)

theorem respond_keeping (status : Status) (page : Page) (loaded : Bool) :
    ∃ result after, ∀ baseDir old,
      respond (depth + 1) status page (keeping config host ⟨loaded, baseDir, old⟩ : Project ζ ω) =
        some (result, keeping config host after) := by
  obtain ⟨rendered, page', hpage⟩ := renderPage_keeping (ζ := ζ) config host depth page loaded
  obtain ⟨body, hskin⟩ :=
    renderSkin_keeping (ζ := ζ) config host ⟨loaded, page.baseDir, page'⟩ depth
  cases rendered with
  | error cause =>
    refine ⟨.error cause, ⟨loaded, page.baseDir, page'⟩, fun baseDir old => ?_⟩
    rw [respond, hpage]
    rfl
  | ok =>
    cases body with
    | error cause =>
      refine ⟨.error cause, ⟨loaded, page.baseDir, page'⟩, fun baseDir old => ?_⟩
      rw [respond, hpage]
      simp only [Outcome.andThen, Option.bind_some, hskin]
    | ok body =>
      refine ⟨.ok ⟨status, body⟩, ⟨loaded, page.baseDir, page'⟩, fun baseDir old => ?_⟩
      rw [respond, hpage]
      simp only [Outcome.andThen, Option.bind_some, hskin]

theorem process_keeping (kept : Kept) :
    (keeping config host kept : Project ζ ω).process depth path =
      if !(HasDisk.disk host).isFile config.skin then
        some (.ok ⟨.serverError, Response.noSkin⟩, keeping config host kept)
      else
        match (new config host : Project ζ ω).requested path with
        | .error cause => some (.error cause, keeping config host kept)
        | .ok (status, page) =>
          (loadAll depth (config.load ++ page.plugins) (keeping config host kept)).andThen
            fun _ project => respond depth status page project :=
  rfl

/-- Two projects that come to have loaded the same answer a request alike, and where they answer
with a page, they keep the same afterwards. -/
theorem process_eq_of_loaded (kept kept' : Kept)
    (hloaded : ∀ status page, (new config host : Project ζ ω).requested path = .ok (status, page) →
      (kept.loaded ∨ configName ∈ config.load ++ page.plugins ↔
        kept'.loaded ∨ configName ∈ config.load ++ page.plugins)) :
    ∃ result after after',
      (keeping config host kept : Project ζ ω).process (depth + 2) path =
        some (result, keeping config host after) ∧
      (keeping config host kept' : Project ζ ω).process (depth + 2) path =
        some (result, keeping config host after') ∧
      ∀ response, result = .ok response → response.status ≠ .serverError → after = after' := by
  rw [process_keeping, process_keeping]
  by_cases hskin : (!(HasDisk.disk host).isFile config.skin) = true
  · rw [if_pos hskin, if_pos hskin]
    refine ⟨_, kept, kept', rfl, rfl, ?_⟩
    rintro _ ⟨⟩ hstatus
    exact absurd rfl hstatus
  · rw [if_neg hskin, if_neg hskin]
    cases hrequested : (new config host : Project ζ ω).requested path with
    | error cause =>
      refine ⟨_, kept, kept', rfl, rfl, ?_⟩
      rintro _ ⟨⟩
    | ok answer =>
      obtain ⟨status, page⟩ := answer
      obtain ⟨result, hload⟩ :=
        loadAll_keeping (ζ := ζ) config host depth (config.load ++ page.plugins)
      obtain ⟨loaded, hfirst, hafter⟩ := hload kept
      obtain ⟨loaded', hsecond, hafter'⟩ := hload kept'
      simp only [hfirst, hsecond]
      cases result with
      | error cause =>
        refine ⟨_, _, _, rfl, rfl, ?_⟩
        rintro _ ⟨⟩
      | ok =>
        have hsame : loaded' = loaded := by
          rw [Bool.eq_iff_iff, hafter rfl, hafter' rfl]
          exact (hloaded status page hrequested).symm
        obtain ⟨result, after, hrespond⟩ :=
          respond_keeping (ζ := ζ) config host (depth + 1) status page loaded
        rw [hsame]
        exact ⟨result, after, after, hrespond _ _, hrespond _ _, fun _ _ _ => rfl⟩

theorem exists_process_keeping (kept : Kept) :
    ∃ result after, (keeping config host kept : Project ζ ω).process (depth + 2) path =
      some (result, keeping config host after) := by
  obtain ⟨result, after, -, hprocess, -⟩ :=
    process_eq_of_loaded (ζ := ζ) config host depth path kept kept fun _ _ _ => Iff.rfl
  exact ⟨result, after, hprocess⟩

theorem serve_keeping (requests : List (ω × Text)) (kept : Kept) :
    ∃ host' kept', serve (depth + 2) requests (keeping config host kept : Project ζ ω) =
      some (keeping config host' kept') := by
  induction requests generalizing host kept with
  | nil => exact ⟨host, kept, rfl⟩
  | cons request rest ih =>
    obtain ⟨files, path⟩ := request
    obtain ⟨result, after, hprocess⟩ :=
      exists_process_keeping (ζ := ζ) config files depth path kept
    obtain ⟨host', kept', hserve⟩ := ih files after
    refine ⟨host', kept', ?_⟩
    have hset : (keeping config host kept : Project ζ ω).setHost files =
        keeping config files kept := rfl
    rw [serve, hset, hprocess]
    exact hserve

section Agree

variable {config host depth path} {kept kept' : Kept} {result result' : Except SiteError Response}
  {after after' : Project ζ ω}

theorem process_agree
    (hprocess : (keeping config host kept).process (depth + 2) path = some (result, after))
    (hprocess' : (keeping config host kept').process (depth + 2) path = some (result', after'))
    (hloaded : ∀ status page, (new config host : Project ζ ω).requested path = .ok (status, page) →
      (kept.loaded ∨ configName ∈ config.load ++ page.plugins ↔
        kept'.loaded ∨ configName ∈ config.load ++ page.plugins)) :
    result = result' ∧
      ∀ response, result = .ok response → response.status ≠ .serverError → after = after' := by
  obtain ⟨same, kept₁, kept₂, hfirst, hsecond, hafter⟩ :=
    process_eq_of_loaded config host depth path kept kept' hloaded
  rw [hprocess] at hfirst
  rw [hprocess'] at hsecond
  cases hfirst
  cases hsecond
  refine ⟨rfl, fun response hresult hstatus => ?_⟩
  rw [hafter response hresult hstatus]

end Agree

/-- A project with no plugins but its own answers every request, and two such projects of a
configuration, which have answered whatever requests on whatever files, answer a request on the
same files alike if the same plugins are registered in them; where they answer with a page, nothing
tells them apart afterwards, neither page nor directory. Where the plugins that are preloaded or
those of the page include `Config`, they answer as a fresh project does. -/
theorem process_eq_of_same_names (host₁ host₂ : ω) (earlier₁ earlier₂ : List (ω × Text)) :
    ∃ project₁ project₂ : Project ζ ω,
      serve (depth + 2) earlier₁ (new config host₁) = some project₁ ∧
      serve (depth + 2) earlier₂ (new config host₂) = some project₂ ∧
      ∃ result₁ after₁ result₂ after₂ fresh after,
        (project₁.setHost host).process (depth + 2) path = some (result₁, after₁) ∧
        (project₂.setHost host).process (depth + 2) path = some (result₂, after₂) ∧
        (new config host : Project ζ ω).process (depth + 2) path = some (fresh, after) ∧
        ((∀ name, name ∈ project₁.context.registry.names ↔
            name ∈ project₂.context.registry.names) →
          result₁ = result₂ ∧
          ∀ response, result₁ = .ok response → response.status ≠ .serverError →
            after₁ = after₂) ∧
        ((configName ∈ config.load ∨ ∃ status page,
            (new config host : Project ζ ω).requested path = .ok (status, page) ∧
            configName ∈ page.plugins) →
          result₁ = fresh ∧
          ∀ response, result₁ = .ok response → response.status ≠ .serverError →
            after₁ = after) := by
  obtain ⟨files₁, kept₁, hserve₁⟩ := serve_keeping (ζ := ζ) config host₁ depth earlier₁ .initial
  obtain ⟨files₂, kept₂, hserve₂⟩ := serve_keeping (ζ := ζ) config host₂ depth earlier₂ .initial
  obtain ⟨result₁, after₁, hfirst⟩ := exists_process_keeping (ζ := ζ) config host depth path kept₁
  obtain ⟨result₂, after₂, hsecond⟩ := exists_process_keeping (ζ := ζ) config host depth path kept₂
  obtain ⟨fresh, after, hfresh⟩ := exists_process_keeping (ζ := ζ) config host depth path .initial
  rw [← new_eq_keeping] at hserve₁ hserve₂ hfresh
  refine ⟨_, _, hserve₁, hserve₂, result₁, _, result₂, _, fresh, _, hfirst, hsecond, hfresh,
    fun hnames => ?_, fun hasked => ?_⟩
  · refine process_agree hfirst hsecond fun status page _ => or_congr_left ?_
    rw [← mem_names_own (ζ := ζ) config.settings kept₁.loaded,
      ← mem_names_own (ζ := ζ) config.settings kept₂.loaded]
    exact hnames configName
  · rw [new_eq_keeping] at hfresh
    refine process_agree hfirst hfresh fun status page hrequested => ?_
    have hconfig : configName ∈ config.load ++ page.plugins := by
      rcases hasked with hpreloaded | ⟨status', page', hrequested', hplugin⟩
      · exact List.mem_append_left _ hpreloaded
      · rw [hrequested'] at hrequested
        cases hrequested
        exact List.mem_append_right _ hplugin
    exact iff_of_true (.inr hconfig) (.inr hconfig)

end Stencil.Project
