import Stencil.Files.Disk
import Stencil.Page.Basic
import Stencil.Plugin.CommandTable

namespace Stencil

/-- The world of a site: the page that is being rendered, and the world around the site. The page is
shared: a guest may be given it, to read it and to write it. -/
structure SiteWorld (ω : Type) where
  page : Page
  host : ω

instance {ω : Type} [HasDisk ω] : HasDisk (SiteWorld ω) where
  disk world := HasDisk.disk world.host

instance {ω : Type} [Journal ω] : Journal (SiteWorld ω) where
  note entry world := { world with host := Journal.note entry world.host }

/-- The commands of `Page`. -/
inductive PageCommand
  | title
  | content
  | scripts
  | styles
  | metadata
  | path
  deriving DecidableEq, Repr

/-- The commands of `Config`. -/
inductive ConfigCommand
  | get
  deriving DecidableEq, Repr

namespace PageCommand

/-- The commands by name. -/
def table : CommandTable PageCommand :=
  CommandTable.ofList
    [("title", title), ("content", content), ("scripts", scripts), ("styles", styles),
      ("metadata", metadata), ("path", path)]

/-- The title of a page without one. -/
def noTitle : Text := "Title not found"

/-- Lines with line ends between them. -/
def lines (items : List Text) : Text :=
  ['\n'].intercalate items

/-- What a command answers about a page. The parameter `notags` asks for a title without tags. -/
def answer (command : PageCommand) (params : Option ParamSet) (page : Page) : Text :=
  match command with
  | title =>
    let title := page.title.getD noTitle
    if params.any (·.contains "notags") then Markup.stripTags title else title
  | content => page.content
  | scripts => lines page.scripts
  | styles => lines page.styles
  | metadata => page.metadata
  | path => page.path.getD []

/-- Runs a command. -/
def run {η ω : Type} (command : PageCommand) (state : Unit) (params : Option ParamSet) :
    Command η (SiteWorld ω) (Unit × Except PluginError Text) :=
  .observe fun view => pure (state, .ok (command.answer params view.world.page))

end PageCommand

namespace ConfigCommand

/-- The commands by name. -/
def table : CommandTable ConfigCommand :=
  CommandTable.ofList [("get", get)]

/-- Runs a command on the settings. -/
def run {η ω : Type} (_command : ConfigCommand) (settings : List (Text × Text))
    (params : Option ParamSet) : Command η ω (List (Text × Text) × Except PluginError Text) :=
  pure (settings, match params.bind (·.get "name") with
    | none => .error (.missingParam "name")
    | some name =>
      match settings.lookup name with
      | some value => .ok value
      | none => .error (.other ("setting '".toList ++ name ++ "' is not defined".toList)))

end ConfigCommand

/-- A plugin of a site: `Page` with the fields of the page that is being rendered, `Config` with the
settings, or a guest of the site. -/
inductive SitePlugin (ζ : Type)
  | page (plugin : Bound PageCommand Unit)
  | config (plugin : Bound ConfigCommand (List (Text × Text)))
  | guest (plugin : ζ)

namespace SitePlugin

variable {ζ ω : Type}

/-- The name of the plugin that serves the page. -/
def pageName : Text := "Page"

/-- The name of the plugin that serves the settings. -/
def configName : Text := "Config"

/-- The plugin that serves the page. -/
def pagePlugin : SitePlugin ζ :=
  .page ⟨pageName, PageCommand.table, ()⟩

/-- The plugin that serves settings. -/
def configPlugin (settings : List (Text × Text)) : SitePlugin ζ :=
  .config ⟨configName, ConfigCommand.table, settings⟩

instance [Offers ζ] : Offers (SitePlugin ζ) where
  offer
    | .page plugin => plugin.offer
    | .config plugin => plugin.offer
    | .guest plugin => Offers.offer plugin

variable [Offers ζ] [Handler ζ (SiteWorld ω)]

instance : Handler (SitePlugin ζ) (SiteWorld ω) where
  invoke
    | .page plugin, method, params => do
      let (plugin, result) ← plugin.invoke PageCommand.run method params
      return (.page plugin, result)
    | .config plugin, method, params => do
      let (plugin, result) ← plugin.invoke ConfigCommand.run method params
      return (.config plugin, result)
    | .guest plugin, method, params => do
      let (plugin, result) ← (Handler.invoke plugin method params).embed .guest
      return (.guest plugin, result)
  loaded
    | .guest plugin => do
      let (plugin, result) ← (Handler.loaded plugin).embed .guest
      return (.guest plugin, result)
    | plugin => pure (plugin, .ok ())

end SitePlugin

end Stencil
