import Stencil.CommandLine.Args
import Stencil.Site.Project
import Stencil.Text.Quoted

namespace Stencil.CommandLine

/-- What a run leaves: an exit code and two outputs. -/
structure Report where
  code : Nat
  stdout : Text
  stderr : Text
  deriving DecidableEq, Repr

/-- A cause for which a command fails. -/
inductive Failure
  | config (cause : ConfigError)
  | site (cause : SiteError)
  | unreadable (cause : ReadError)
  /-- operations were nested too deeply -/
  | tooDeep
  deriving DecidableEq, Repr

/-- How a cause is worded. -/
def Failure.message : Failure → Text
  | config cause => cause.message
  | site cause => cause.message
  | unreadable cause => cause.message
  | tooDeep => "operations are nested too deeply"

/-- The name and the version of the program. -/
def versionLine : Text :=
  "pw 0.1.0\n"

/-- How the program is called. -/
def helpText : Text :=
  ("pageweave - directive-driven page renderer\n\nUsage: pw <COMMAND>\n\nCommands:\n" ++
    "  render [OPTIONS] [PAGE]  Render a page and print the result\n" ++
    "  scan <FILE>              List the directives in a file\n\n" ++
    "Options of render:\n" ++
    "  -c, --config <CONFIG>        Path to configuration file\n" ++
    "  -s, --skin <SKIN>            Skin template\n" ++
    "      --root-path <ROOT_PATH>  Site root path\n" ++
    "  -v, --verbose                Enable verbose output\n\n" ++
    "Options:\n  -h, --help     Print help\n  -V, --version  Print version\n")

/-- How the program should have been called. -/
def usageText : Text :=
  "error: the arguments cannot be read\n\nFor more information, try '--help'.\n"

/-- How a parameter is shown. -/
def showParam : Text × ParamValue → Text
  | (key, .text value) => ' ' :: key ++ '=' :: Text.quoted value
  | (key, .flag) => ' ' :: key

/-- What a directive asks for, on one line. -/
def describe : Target → Text
  | .bare name => "bare ".toList ++ name
  | .call plugin method params =>
    "call ".toList ++ plugin ++ '.' :: method ++ params.flatMap showParam

/-- The line of a directive: its token, a tab, and what it asks for. -/
def directiveLine (directive : Directive) : Text :=
  directive.raw ++ '\t' :: describe directive.target ++ ['\n']

/-- Scans a file. -/
def scan (disk : Disk) (file : Text) : Except Failure Report :=
  (disk.get file).mapError .unreadable |>.map fun text =>
    let directives := Directive.scan text
    { code := 0
      stdout := directives.flatMap directiveLine
      stderr := file ++ ": ".toList ++ Text.ofNat directives.length ++ " directive(s)\n".toList }

/-- The configuration that rendering goes by. -/
def renderConfig (disk : Disk) (env : Environment) (options : RenderOptions) :
    Except ConfigError Config :=
  Config.load? disk env options.config
    (some { skin := options.skin, rootPath := options.rootPath, notFound := none })

/-- Renders a page of the site that the working directory belongs to. -/
def response (disk : Disk) (env : Environment) (options : RenderOptions) :
    Except Failure Response :=
  match renderConfig disk env options with
  | .error cause => .error (.config cause)
  | .ok config =>
    let project : Project Empty Disk := Project.new config disk
    match project.process Engine.depthLimit options.page with
    | none => .error .tooDeep
    | some (.error cause, _) => .error (.site cause)
    | some (.ok response, _) => .ok response

/-- Renders a page and writes the result. -/
def render (disk : Disk) (env : Environment) (options : RenderOptions) : Except Failure Report :=
  (response disk env options).map fun response =>
    { code := 0
      stdout := response.body
      stderr := Text.ofNat response.status.code ++ ' ' :: options.page ++ ['\n'] }

/-- The report of a command that may have failed. -/
def report : Except Failure Report → Report
  | .ok report => report
  | .error cause => ⟨1, [], "Error: ".toList ++ cause.message ++ ['\n']⟩

/-- Meets a request. -/
def answer (disk : Disk) (env : Environment) : Request → Report
  | .render options => report (render disk env options)
  | .scan file => report (scan disk file)
  | .version => ⟨0, versionLine, []⟩
  | .help => ⟨0, helpText, []⟩

/-- Runs the program with the given arguments. -/
def run (disk : Disk) (env : Environment) (args : List Text) : Report :=
  match parse env args with
  | some request => answer disk env request
  | none => ⟨2, [], usageText⟩

end Stencil.CommandLine
