import Stencil.Config.Basic
import Stencil.Render.Operations
import Stencil.Site.Plugins

namespace Stencil

/-- How a request was met. -/
inductive Status
  | ok
  | notFound
  | serverError
  deriving DecidableEq, Repr

/-- The number of a status. -/
def Status.code : Status → Nat
  | ok => 200
  | notFound => 404
  | serverError => 500

/-- The answer to a request. -/
structure Response where
  status : Status
  body : Text
  deriving DecidableEq, Repr

/-- The body of an answer when there is no skin. -/
def Response.noSkin : Text :=
  "<h1>Error 500 - Internal Server Error</h1><p>Template file not found</p>"

/-- A cause for which a request is not answered. -/
inductive SiteError
  /-- the file of a page could not be read -/
  | unreadablePage (path : Text) (cause : ReadError)
  /-- the document of a page could not be read -/
  | document (cause : Page.DocumentError)
  | render (cause : RenderError)
  /-- the skin is there but could not be read -/
  | unreadableSkin (path : Text) (cause : ReadError)
  deriving DecidableEq, Repr

/-- How a cause is worded. -/
def SiteError.message : SiteError → Text
  | unreadablePage path cause =>
    "Failed to read page ".toList ++ path ++ ": ".toList ++ cause.message
  | document cause => cause.message
  | render cause => cause.message
  | unreadableSkin path cause =>
    "Failed to read skin ".toList ++ path ++ ": ".toList ++ cause.message

/-- Reads the page in a file. -/
def Page.ofFile (assets : AssetPaths) (disk : Disk) (path : Text) : Except SiteError Page :=
  match disk.get path with
  | .error cause => .error (.unreadablePage path cause)
  | .ok document =>
    match Page.ofDocument assets document with
    | .error cause => .error (.document cause)
    | .ok page => .ok { page with path := some path }

/-- A site with guests `ζ`, in a world `ω`. -/
structure Project (ζ ω : Type) where
  skin : Text
  notFound : Text
  assets : AssetPaths
  /-- the plugins that are loaded before every page -/
  preload : List Text
  context : Context (SitePlugin ζ) (SiteWorld ω)

namespace Project

variable {ζ ω : Type}

/-- The plugins that a project begins with: the one that serves the page. -/
def builtIn : Registry (SitePlugin ζ) :=
  Registry.empty.add ⟨SitePlugin.pageName, some SitePlugin.pagePlugin, true⟩ rfl

/-- The project of a configuration, whose pages may load plugins of a catalog. The catalog is
given `Config` unless it has one; `Page` is registered from the start. -/
def withCatalog (config : Config) (catalog : Catalog ζ) (host : ω) : Project ζ ω :=
  let guests : Catalog (SitePlugin ζ) :=
    catalog.map fun entry => ⟨entry.name, .guest entry.fresh, entry.active⟩
  let context := Context.new config.rootPath Context.defaultBase
    (guests.register SitePlugin.configName (SitePlugin.configPlugin config.settings))
    ⟨Page.empty, host⟩
  { skin := config.skin
    notFound := config.notFound
    assets := ⟨config.rootPath, config.cssPath, config.jsPath⟩
    preload := config.load
    context := { context with registry := builtIn } }

/-- The project of a configuration, with no plugins but its own. -/
def new (config : Config) (host : ω) : Project ζ ω :=
  withCatalog config [] host

/-- The page that is served at present. -/
def page (project : Project ζ ω) : Page :=
  project.context.world.page

/-- The project with another page to serve. -/
def setPage (project : Project ζ ω) (page : Page) : Project ζ ω :=
  { project with
    context := { project.context with world := { project.context.world with page } } }

variable [HasDisk ω]

/-- The file system of a project. -/
def disk (project : Project ζ ω) : Disk :=
  HasDisk.disk project.context.world

/-- The page that a request is answered with. For a page that is missing it is the page made for
that, or an empty one. -/
def requested (project : Project ζ ω) (path : Text) : Except SiteError (Status × Page) :=
  if project.disk.isFile path then
    (Page.ofFile project.assets project.disk path).map fun page => (.ok, page)
  else if project.disk.isFile project.notFound then
    (Page.ofFile project.assets project.disk project.notFound).map fun page => (.notFound, page)
  else
    .ok (.notFound, Page.empty)

variable [Offers ζ] [Handler ζ (SiteWorld ω)]

/-- How an operation of a project ends. -/
abbrev Outcome (ζ ω α : Type) := Option (Except SiteError α × Project ζ ω)

/-- Does something in the context of a project. -/
def inContext {α : Type} (project : Project ζ ω)
    (operation : Context (SitePlugin ζ) (SiteWorld ω) →
      Stencil.Outcome (SitePlugin ζ) (SiteWorld ω) α) : Outcome ζ ω α :=
  (operation project.context).map fun (result, context) =>
    (result.mapError .render, { project with context })

/-- Goes on with the result of an operation that did not fail. -/
def Outcome.andThen {α β : Type} (outcome : Outcome ζ ω α)
    (next : α → Project ζ ω → Outcome ζ ω β) : Outcome ζ ω β :=
  outcome.bind fun
    | (.error cause, project) => some (.error cause, project)
    | (.ok a, project) => next a project

/-- Loads plugins one after another. -/
def loadAll (depth : Nat) : List Text → Project ζ ω → Outcome ζ ω Unit
  | [], project => some (.ok (), project)
  | name :: rest, project =>
    (project.inContext (Context.load depth name)).andThen fun _ project =>
      loadAll depth rest project

/-- Renders the title of the page that is served, if it has one. -/
def renderTitle (depth : Nat) (project : Project ζ ω) : Outcome ζ ω (Option Text) :=
  match project.page.title with
  | none => some (.ok none, project)
  | some title =>
    (project.inContext (Context.render depth title)).andThen fun title project =>
      some (.ok (some title), project)

/-- Serves a page and renders its content and title; both are put into it when both are there. -/
def renderPage (depth : Nat) (page : Page) (project : Project ζ ω) : Outcome ζ ω Unit :=
  let project := { project with context := { project.context with baseDir := page.baseDir } }
  let project := project.setPage page
  (project.inContext (Context.render depth page.content)).andThen fun content project =>
    (renderTitle depth project).andThen fun title project =>
      let page := project.page
      some (.ok (), project.setPage { page with content, title := title <|> page.title })

/-- Renders the skin. -/
def renderSkin (depth : Nat) (project : Project ζ ω) : Outcome ζ ω Text :=
  match project.disk.get project.skin with
  | .error cause => some (.error (.unreadableSkin project.skin cause), project)
  | .ok skin => project.inContext (Context.render depth skin)

/-- Answers the request for a page: the plugins of the project and of the page are loaded, then the
page is rendered and then the skin, which asks for what was rendered. Without a skin nothing is
done. -/
def process (depth : Nat) (path : Text) (project : Project ζ ω) : Outcome ζ ω Response :=
  if !project.disk.isFile project.skin then
    some (.ok ⟨.serverError, Response.noSkin⟩, project)
  else
    match project.requested path with
    | .error cause => some (.error cause, project)
    | .ok (status, page) =>
      (loadAll depth (project.preload ++ page.plugins) project).andThen fun _ project =>
        (renderPage depth page project).andThen fun _ project =>
          (renderSkin depth project).andThen fun body project =>
            some (.ok ⟨status, body⟩, project)

end Project

end Stencil
