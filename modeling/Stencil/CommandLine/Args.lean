import Stencil.Config.Environment

namespace Stencil.CommandLine

/-- What rendering is asked for. -/
structure RenderOptions where
  page : Text
  config : Option Text
  skin : Option Text
  rootPath : Option Text
  verbose : Bool
  deriving DecidableEq, Repr

/-- What is asked for. -/
inductive Request
  | render (options : RenderOptions)
  | scan (file : Text)
  | version
  | help
  deriving DecidableEq, Repr

/-- Why reading stops: a request that needs no more arguments, or a misuse. -/
abbrev Stop := Option Request

/-- An option. -/
inductive Switch
  | config
  | skin
  | rootPath
  | verbose
  | help
  deriving DecidableEq, Repr

namespace Switch

/-- The option of a long name. -/
def ofLong (name : Text) : Option Switch :=
  [("config", config), ("skin", skin), ("root-path", rootPath), ("verbose", verbose),
    ("help", help)].lookup (String.ofList name)

/-- The option of a letter. -/
def ofShort : Char → Option Switch
  | 'c' => some config
  | 's' => some skin
  | 'v' => some verbose
  | 'h' => some help
  | _ => none

/-- Whether an option is followed by a value. -/
def takesValue : Switch → Bool
  | config | skin | rootPath => true
  | verbose | help => false

end Switch

/-- The arguments of a command that have been read. -/
structure Progress where
  operand : Option Text
  config : Option Text
  skin : Option Text
  rootPath : Option Text
  verbose : Bool
  /-- the option whose value comes next -/
  awaiting : Option Switch
  /-- whether only operands may follow -/
  escaped : Bool

namespace Progress

/-- Nothing has been read. -/
def start : Progress :=
  ⟨none, none, none, none, false, none, false⟩

/-- Fills a place that is empty. A path has to have a text. -/
def fill (place : Option Text) (value : Text) (isPath : Bool) : Except Stop (Option Text) :=
  if place.isSome ∨ (isPath ∧ value.isEmpty) then .error none else .ok (some value)

/-- Takes the value of an option. No option can be given twice. -/
def setValue (p : Progress) (switch : Switch) (value : Text) : Except Stop Progress :=
  let p := { p with awaiting := none }
  match switch with
  | .config => (fill p.config value true).map fun config => { p with config }
  | .skin => (fill p.skin value true).map fun skin => { p with skin }
  | .rootPath => (fill p.rootPath value false).map fun rootPath => { p with rootPath }
  | .verbose | .help => .error none

/-- Takes an option that has no value. -/
def setFlag (p : Progress) : Switch → Except Stop Progress
  | .help => .error (some .help)
  | .verbose => if p.verbose then .error none else .ok { p with verbose := true }
  | _ => .error none

/-- Takes an operand. -/
def setOperand (p : Progress) (value : Text) : Except Stop Progress :=
  (fill p.operand value true).map fun operand => { p with operand }

/-- Takes an option given by its long name, maybe with a value behind a `=`. -/
def long (allowed : Switch → Bool) (p : Progress) (t : Text) : Except Stop Progress :=
  let (name, value) := match Text.cutFirst '=' t with
    | some (name, value) => (name, some value)
    | none => (t, none)
  match (Switch.ofLong name).filter allowed, value with
  | none, _ => .error none
  | some switch, some value => if switch.takesValue then p.setValue switch value else .error none
  | some switch, none =>
    if switch.takesValue then .ok { p with awaiting := some switch } else p.setFlag switch

/-- Takes options given by their letters. The rest of the letters, without a `=` in front, is the
value of the first one that takes a value. -/
def short (allowed : Switch → Bool) (p : Progress) : Text → Except Stop Progress
  | [] => .ok p
  | c :: rest =>
    match (Switch.ofShort c).filter allowed with
    | none => .error none
    | some switch =>
      if switch.takesValue then
        match rest with
        | [] => .ok { p with awaiting := some switch }
        | '=' :: value => p.setValue switch value
        | value => p.setValue switch value
      else (p.setFlag switch).bind fun p => short allowed p rest

/-- Takes an argument. -/
def argument (allowed : Switch → Bool) (p : Progress) (arg : Text) : Except Stop Progress :=
  match p.awaiting, p.escaped, arg with
  | some _, _, '-' :: _ :: _ => .error none
  | some switch, _, value => p.setValue switch value
  | none, false, ['-', '-'] => .ok { p with escaped := true }
  | none, false, '-' :: '-' :: t => p.long allowed t
  | none, false, '-' :: c :: t => p.short allowed (c :: t)
  | none, _, value => p.setOperand value

/-- Takes all arguments, options and operands in any order. No value may be missing at the end, and
reading stops at the first argument that cannot stand where it does. -/
def arguments (allowed : Switch → Bool) (args : List Text) : Except Stop Progress :=
  (args.foldlM (argument allowed) start).bind fun p =>
    if p.awaiting.isSome then .error none else .ok p

end Progress

/-- The variable that gives the root path if no option does. -/
def rootVariable : Text := "PW_ROOT_PATH"

/-- The page that is rendered if none is given. -/
def defaultPage : Text := "index.xml"

/-- The arguments of the command `render`. -/
def parseRender (env : Environment) (args : List Text) : Except Stop Request :=
  (Progress.arguments (fun _ => true) args).map fun p =>
    .render
      { page := p.operand.getD defaultPage
        config := p.config
        skin := p.skin
        rootPath := p.rootPath <|> env.get rootVariable
        verbose := p.verbose }

/-- The arguments of the command `scan`. -/
def parseScan (args : List Text) : Except Stop Request :=
  (Progress.arguments (· == .help) args).bind fun p =>
    match p.operand with
    | some file => .ok (.scan file)
    | none => .error none

/-- The commands that help can be asked for. -/
def commandNames : List Text :=
  ["render", "scan", "help"]

/-- Whether a text begins with another one. -/
def beginsWith (lead t : Text) : Bool :=
  (Text.after? lead t).isSome

/-- What the arguments ask for; nothing if they are misused. The first one names a command. -/
def parse (env : Environment) : List Text → Option Request
  | [] => none
  | command :: args =>
    let result : Except Stop Request :=
      if command = "render" then parseRender env args
      else if command = "scan" then parseScan args
      else if command = "--version" ∨ beginsWith "-V" command then .ok .version
      else if command = "--help" ∨ beginsWith "-h" command then .ok .help
      else if command = "help" ∧ args.length ≤ 1 ∧ args.all commandNames.contains then .ok .help
      else .error none
    match result with
    | .ok request => some request
    | .error stop => stop

end Stencil.CommandLine
