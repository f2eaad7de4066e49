import Stencil.Context
import Stencil.Directive.Basic
import Stencil.Render.Replacements
import Stencil.Render.Editable

namespace Stencil

/-- How an operation ends: a result and the context it leaves, or nothing if the depth was used
up. -/
abbrev Outcome (η ω α : Type) := Option (Except RenderError α × Context η ω)

/-- The operations that plugin code can start from within, one level further down. Plugins re-enter
the context that runs them, so rendering, calling, loading and initializing depend on one another;
each is written once, over such an engine. -/
structure Engine (η ω : Type) where
  /-- renders a text -/
  render : Text → Context η ω → Outcome η ω Text
  /-- runs the hooks that have not been started -/
  runHooks : Context η ω → Outcome η ω Unit

/-- What is done about one directive. -/
inductive Resolution
  /-- every occurrence of its token is replaced by a text -/
  | replace (text : Text)
  /-- its token stays -/
  | inert
  deriving DecidableEq, Repr

namespace Engine

variable {η ω ε α : Type} [Reads ω] [Offers η] [Handler η ω]

/-- Discovery: registers what was activated, then initializes what is registered. -/
def settle (below : Engine η ω) (ctx : Context η ω) : Outcome η ω Unit :=
  below.runHooks ctx.instantiate

/-- Loads a plugin. A name that is neither in the catalog nor registered is refused. -/
def load (below : Engine η ω) (name : Text) (ctx : Context η ω) : Outcome η ω Unit :=
  match ctx.catalog.activate? name with
  | some catalog => below.settle { ctx with catalog }
  | none =>
    if ctx.registry.contains name then below.settle ctx
    else some (.error (.unknownPlugin name), ctx)

/-- Registers a plugin. The answer tells whether the name was free; a plugin that comes second is
dropped. -/
def register (below : Engine η ω) (name : Text) (plugin : η) (ctx : Context η ω) :
    Outcome η ω Bool :=
  let registry? := ctx.registry.register? name plugin
  (below.settle { ctx with registry := registry?.getD ctx.registry }).bind fun (result, ctx) =>
    some (result.map fun _ => registry?.isSome, ctx)

/-- Runs plugin code: its value, what it emitted in order, and the context it leaves. -/
def run (below : Engine η ω) : Script ε η ω α → Context η ω → Option (α × List ε × Context η ω)
  | .done a, ctx => some (a, [], ctx)
  | .emit output next, ctx =>
    (below.run next ctx).map fun (a, outputs, ctx) => (a, output :: outputs, ctx)
  | .render text next, ctx =>
    (below.render text ctx).bind fun (result, ctx) => below.run (next result) ctx
  | .load name next, ctx =>
    (below.load name ctx).bind fun (result, ctx) => below.run (next result) ctx
  | .register name plugin next, ctx =>
    (below.register name plugin ctx).bind fun (result, ctx) => below.run (next result) ctx
  | .settle next, ctx =>
    (below.settle ctx).bind fun (result, ctx) => below.run (next result) ctx
  | .setBase dir next, ctx => below.run next { ctx with baseDir := dir }
  | .read path next, ctx =>
    let (result, ctx) := ctx.read path
    below.run (next result) ctx
  | .observe next, ctx => below.run (next ctx.view) ctx
  | .update change next, ctx => below.run next { ctx with world := change ctx.world }

/-- Calls a method of a registered plugin. The plugin is out of its place while it runs, and a call
that finds the place empty is refused. What the command emits follows its value. -/
def call (below : Engine η ω) (plugin method : Text) (params : ParamSet) (ctx : Context η ω) :
    Option (Except PluginError Text × Context η ω) :=
  match ctx.registry.lend? plugin with
  | none => some (.error (.busy plugin), ctx)
  | some (handler, registry) =>
    if (Offers.offer handler).accepts method then
      let params := if params.isEmpty then none else some params
      (below.run (Handler.invoke handler method params) { ctx with registry }).map
        fun ((handler, result), outputs, ctx) =>
          (result.map (· ++ outputs.flatten), ctx.restore plugin handler)
    else
      some (.error (.unknownMethod plugin method), ctx)

/-- The name under which files are included when no plugin has it. -/
def includeName : Text := "include"

/-- The bare name that stands for the root path. -/
def rootName : Text := "root"

/-- The path of an included file. Quotes around the name are decoration. -/
def includePath (baseDir file : Text) : Text :=
  Path.below baseDir (file.filter fun c => c ≠ '"' && c ≠ '\'')

/-- Includes a file, whose text is taken as it is. -/
def includeFile (file : Text) (ctx : Context η ω) : Except RenderError Text × Context η ω :=
  let path := includePath ctx.baseDir file
  let (result, ctx) := ctx.read path
  (result.mapError (.unreadable path), ctx)

/-- The text that a call is replaced by: its value, or the wording of its failure. -/
def replacement : Except PluginError Text → Text
  | .ok text => text
  | .error cause => cause.message

/-- Resolves a directive. A plugin that fails is replaced by the wording of its failure, so only a
file that cannot be included ends the render. -/
def dispatch (below : Engine η ω) (directive : Directive) (ctx : Context η ω) :
    Outcome η ω Resolution :=
  match directive.target with
  | .bare name => some (.ok (.replace (if name = rootName then ctx.rootPath else [])), ctx)
  | .call plugin method params =>
    if ctx.registry.contains plugin then
      (below.call plugin method params ctx).map fun (result, ctx) =>
        (.ok (.replace (replacement result)), ctx)
    else if plugin = includeName then
      match params.get "file" with
      | none => some (.ok .inert, ctx)
      | some file =>
        let (result, ctx) := includeFile file ctx
        some (result.map .replace, ctx)
    else
      some (.ok .inert, ctx)

/-- Resolves directives from left to right, up to the first failure. -/
def dispatchAll (below : Engine η ω) :
    List Directive → Context η ω → Outcome η ω (List (Directive × Resolution))
  | [], ctx => some (.ok [], ctx)
  | directive :: rest, ctx =>
    (below.dispatch directive ctx).bind fun
      | (.error cause, ctx) => some (.error cause, ctx)
      | (.ok resolution, ctx) =>
        (below.dispatchAll rest ctx).map fun (results, ctx) =>
          (results.map ((directive, resolution) :: ·), ctx)

/-- The replacements that resolved directives ask for. -/
def replacements (resolved : List (Directive × Resolution)) : Replacements :=
  resolved.filterMap fun
    | (directive, .replace text) => some (directive.raw, text)
    | (_, .inert) => none

/-- Renders a text: its distinct directives are resolved in order, then all tokens are replaced,
then editor markup is removed. -/
def renderStep (below : Engine η ω) (text : Text) (ctx : Context η ω) : Outcome η ω Text :=
  (below.dispatchAll (Directive.scan text) ctx).map fun (result, ctx) =>
    (result.map fun resolved => Render.stripEditable ((replacements resolved).apply text), ctx)

/-- Runs the hook of the first plugin whose hook has not been started, and goes on with the next. A
hook that fails ends the pass. -/
def runHooksStep (below : Engine η ω) (ctx : Context η ω) : Outcome η ω Unit :=
  match ctx.registry.nextUninitialized? with
  | none => some (.ok (), ctx)
  | some (name, handler) =>
    (below.run (Handler.loaded handler) { ctx with registry := ctx.registry.beginHook name }).bind
      fun
        | ((handler, .error cause), _, ctx) => some (.error cause, ctx.restore name handler)
        | ((handler, .ok ()), _, ctx) => below.runHooks (ctx.restore name handler)

/-- A depth that no sensible plugins use up. -/
def depthLimit : Nat := 1000000

end Engine

variable {η ω : Type} [Reads ω] [Offers η] [Handler η ω]

/-- The engine whose operations nest at most `depth` levels. One that would have to go deeper has no
outcome. -/
def engine : Nat → Engine η ω
  | 0 => ⟨fun _ _ => none, fun _ => none⟩
  | depth + 1 =>
    ⟨fun text ctx => (engine depth).renderStep text ctx, fun ctx => (engine depth).runHooksStep ctx⟩

end Stencil
