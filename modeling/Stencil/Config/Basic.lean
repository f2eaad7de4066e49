import Stencil.Config.Document
import Stencil.Config.Environment
import Stencil.Files.Disk
import Stencil.Path

namespace Stencil

/-- The configuration of a site, with all paths resolved. -/
structure Config where
  /-- what the directive `root` stands for, and what links begin with -/
  rootPath : Text
  /-- the template that pages are rendered into -/
  skin : Text
  /-- the page that is shown in place of one that is missing -/
  notFound : Text
  cssPath : Text
  jsPath : Text
  /-- the plugins that are loaded before every page -/
  load : List Text
  /-- in the order of their keys -/
  settings : List (Text × Text)
  /-- the file it was read from -/
  path : Option Text
  deriving DecidableEq, Repr

/-- What takes the place of configured values. -/
structure Overrides where
  skin : Option Text
  rootPath : Option Text
  notFound : Option Text
  deriving DecidableEq, Repr

/-- A cause for which there is no configuration. -/
inductive ConfigError
  /-- the file that was asked for is not there -/
  | missing (path : Text)
  | unreadable (cause : ReadError)
  /-- the file is no configuration document -/
  | malformed
  /-- a field that has to have a text has none -/
  | emptyField (field : Text)
  /-- a field refers to a variable that is not set -/
  | unsetVariable (field name : Text)
  deriving DecidableEq, Repr

namespace ConfigError

/-- How a cause is worded. What is wrong with a malformed document is not told. -/
def message : ConfigError → Text
  | missing path => "Configuration file not found: ".toList ++ path
  | unreadable cause => "I/O error: ".toList ++ cause.message
  | malformed => "TOML parse error: "
  | emptyField field => "Configuration error: ".toList ++ field ++ " cannot be empty".toList
  | unsetVariable field name =>
    "Environment variable error in ".toList ++ field ++ ": $".toList ++ '{' :: name ++
      "\x7d not set".toList

end ConfigError

namespace Config

/-- The usual name of a configuration file. -/
def fileName : Text := "pageweave.toml"

/-- The root path where none is configured. -/
def defaultRoot : Text := ['/']

/-- The skin where none is configured. -/
def defaultSkin : Text := "skin/default.html"

/-- The page for missing pages where none is configured. -/
def defaultNotFound : Text := "app/error/error404.xml"

/-- The configuration of a site that has no configuration file. -/
def defaultAt (base : Text) : Config where
  rootPath := defaultRoot
  skin := Path.join base defaultSkin
  notFound := Path.join base defaultNotFound
  cssPath := []
  jsPath := []
  load := []
  settings := []
  path := none

/-- Fields that have to have a text have one. -/
def validate (config : Config) : Except ConfigError Unit :=
  if config.rootPath.isEmpty then .error (.emptyField "site.root_path")
  else if config.load.any List.isEmpty then .error (.emptyField "plugins.load entry")
  else .ok ()

/-- Replaces references to variables in the value of a field. -/
def expandField (env : Environment) (field value : Text) : Except ConfigError Text :=
  (env.expand value).mapError (.unsetVariable field)

/-- Replaces references to variables in settings, in their order. -/
def expandSettings (env : Environment) :
    List (Text × Text) → Except ConfigError (List (Text × Text))
  | [] => .ok []
  | (key, value) :: rest => do
    let value ← expandField env ("settings.".toList ++ key) value
    let rest ← expandSettings env rest
    return (key, value) :: rest

/-- The configuration that a document describes. Paths are resolved against the directory of its
file. -/
def ofDocument (env : Environment) (path : Text) (document : Document) :
    Except ConfigError Config := do
  let site := document.site
  let rootPath ← expandField env "site.root_path" (site.rootPath.getD defaultRoot)
  let settings ← expandSettings env document.settings
  let base := (Path.parent path).getD ['.']
  return {
    rootPath
    skin := Path.join base (site.skin.getD defaultSkin)
    notFound := Path.join base (site.notFound.getD defaultNotFound)
    cssPath := site.cssPath.getD []
    jsPath := site.jsPath.getD []
    load := document.load
    settings
    path := some path }

/-- Reads the configuration from a file. -/
def ofFile (disk : Disk) (env : Environment) (path : Text) : Except ConfigError Config := do
  let text ← (disk.get path).mapError .unreadable
  match readDocument text with
  | none => .error .malformed
  | some document =>
    let config ← ofDocument env path document
    config.validate
    return config

/-- The files that may hold the configuration, the first one that is present before the others. -/
def candidates (disk : Disk) : Option Text → List Text
  | some path => [path]
  | none => (Path.ancestors disk.workingDir).map fun dir => Path.join dir fileName

/-- The nearest configuration file of the usual name, from the working directory upwards. -/
def discover (disk : Disk) : Option Text :=
  (candidates disk none).find? disk.isPresent

/-- The configuration with overridden values in place. -/
def override (config : Config) (overrides : Overrides) : Config :=
  { config with
    skin := overrides.skin.getD config.skin
    rootPath := overrides.rootPath.getD config.rootPath
    notFound := overrides.notFound.getD config.notFound }

/-- The configuration of the site that the working directory belongs to, or that of a given file. -/
def find (disk : Disk) (env : Environment) : Option Text → Except ConfigError Config
  | some path => if disk.isPresent path then ofFile disk env path else .error (.missing path)
  | none =>
    match discover disk with
    | some path => ofFile disk env path
    | none => .ok (defaultAt disk.workingDir)

/-- The variables that the values in a configuration file may refer to. -/
def referencedNames (disk : Disk) (path : Text) : List Text :=
  match disk.get path with
  | .error _ => []
  | .ok text =>
    match readDocument text with
    | none => []
    | some document =>
      (document.site.rootPath.toList ++ document.settings.map Prod.snd).flatMap
        Environment.references

/-- Finds the configuration and applies overrides to it. -/
def load? (disk : Disk) (env : Environment) (path : Option Text) (overrides : Option Overrides) :
    Except ConfigError Config := do
  let config ← find disk env path
  match overrides with
  | none => return config
  | some overrides =>
    let config := config.override overrides
    config.validate
    return config

end Config

end Stencil
