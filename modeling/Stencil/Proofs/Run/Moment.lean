import Stencil.Render.Operations

namespace Stencil

/-- Whose code it is. -/
inductive Role
  | host
  | hook
  | command
  deriving DecidableEq, Repr

namespace Role

/-- What code may emit. -/
abbrev Output : Role → Type
  | host => Empty
  | hook => Empty
  | command => Text

/-- What code ends with, in a run in which the host's code ends with an `α`. -/
abbrev Ending (η α : Type) : Role → Type
  | host => α
  | hook => η × Except RenderError Unit
  | command => η × Except PluginError Text

end Role

/-- The code of a role. -/
abbrev Code (η ω α : Type) (role : Role) :=
  Script role.Output η ω (role.Ending η α)

/-- A piece of plugin code that is run on behalf of the context. -/
inductive Job
  | hook (name : Text)
  | command (name method : Text)
  deriving DecidableEq, Repr

/-- The plugin whose code it is. -/
def Job.plugin : Job → Text
  | hook name => name
  | command name _ => name

/-- What can be told of a step. -/
inductive Event
  | starts (job : Job)
  | ends (job : Job)
  deriving DecidableEq, Repr

/-- A render that has been begun: its text, what its first directives were resolved to, and the
directives that are left. -/
structure Rendering where
  text : Text
  resolved : List (Directive × Resolution)
  rest : List Directive

namespace Rendering

/-- A render of which nothing is resolved. -/
def begin (text : Text) : Rendering :=
  ⟨text, [], Directive.scan text⟩

/-- Resolves the directive that is next. -/
def answer (progress : Rendering) (resolution : Resolution) : Rendering :=
  match progress.rest with
  | [] => progress
  | directive :: rest =>
    { progress with resolved := progress.resolved ++ [(directive, resolution)], rest }

theorem rest_answer {progress : Rendering} {directive : Directive} {rest : List Directive}
    (hrest : progress.rest = directive :: rest) (resolution : Resolution) :
    (progress.answer resolution).rest = rest := by
  rw [answer, hrest]

/-- The document, when all directives are resolved. -/
def output (progress : Rendering) : Text :=
  Render.stripEditable ((Engine.replacements progress.resolved).apply progress.text)

end Rendering

/-- The calls that code of a role is nested in. Each hook and each command waits for its code to
end, and below it, other code waits for the answer of the operation that ran it. -/
inductive Stack (η ω α : Type) : Role → Type
  /-- the code of the host is not nested in anything -/
  | host : Stack η ω α .host
  /-- the hook of a plugin, run by a discovery that `next` waits for -/
  | hook {role : Role} (name : Text) (below : Stack η ω α role)
      (next : Except RenderError Unit → Code η ω α role) : Stack η ω α .hook
  /-- a command of a plugin with what it emitted, run by a render that `next` waits for -/
  | command {role : Role} (name method : Text) (outputs : List Text) (progress : Rendering)
      (below : Stack η ω α role) (next : Except RenderError Text → Code η ω α role) :
      Stack η ω α .command

/-- A point of a run with the whole nest in view: what is being done now, and for every call around
it the code that waits for its answer. -/
inductive Moment (η ω α : Type)
  /-- code is running -/
  | code {role : Role} (stack : Stack η ω α role) (script : Code η ω α role) (ctx : Context η ω)
  /-- a text is being rendered, and `next` waits for it -/
  | rendering {role : Role} (stack : Stack η ω α role)
      (next : Except RenderError Text → Code η ω α role) (progress : Rendering)
      (ctx : Context η ω)
  /-- hooks that have not been started are looked for, and `next` waits for them -/
  | discovery {role : Role} (stack : Stack η ω α role)
      (next : Except RenderError Unit → Code η ω α role) (ctx : Context η ω)

/-- A command that can be started, and the registry without its plugin. -/
structure Call (η : Type) where
  name : Text
  method : Text
  params : Option ParamSet
  plugin : η
  registry : Registry η

namespace Directive

variable {η ω : Type} [Offers η]

/-- The command that a directive starts: its plugin is registered and in its place, and has the
method. -/
def call? (directive : Directive) (ctx : Context η ω) : Option (Call η) :=
  match directive.target with
  | .bare _ => none
  | .call name method params =>
    match ctx.registry.lend? name with
    | none => none
    | some (plugin, registry) =>
      if (Offers.offer plugin).accepts method then
        some ⟨name, method, if params.isEmpty then none else some params, plugin, registry⟩
      else none

/-- What is answered to a directive that starts no command. -/
def answer [Reads ω] (directive : Directive) (ctx : Context η ω) :
    Except RenderError Resolution × Context η ω :=
  match directive.target with
  | .bare name => (.ok (.replace (if name = Engine.rootName then ctx.rootPath else [])), ctx)
  | .call name method params =>
    if ctx.registry.contains name then
      let cause := match ctx.registry.lend? name with
        | none => PluginError.busy name
        | some _ => PluginError.unknownMethod name method
      (.ok (.replace cause.message), ctx)
    else if name = Engine.includeName then
      match params.get "file" with
      | none => (.ok .inert, ctx)
      | some file =>
        let (result, ctx) := Engine.includeFile file ctx
        (result.map .replace, ctx)
    else
      (.ok .inert, ctx)

end Directive

/-- What a command that has ended leaves to the render: the text for its directive, which is its
value and then what it emitted, and the context with its plugin in place. -/
def Engine.closeCall {η ω : Type} (name : Text)
    (ended : (η × Except PluginError Text) × List Text × Context η ω) :
    Resolution × Context η ω :=
  let ((plugin, result), outputs, ctx) := ended
  (.replace (replacement (result.map (· ++ outputs.flatten))), ctx.restore name plugin)

namespace Stack

variable {η ω α : Type} {role : Role}

/-- The hooks and commands whose code is under way, the innermost first. -/
def jobs {role : Role} : Stack η ω α role → List Job
  | host => []
  | hook name below _ => .hook name :: below.jobs
  | command name method _ _ below _ => .command name method :: below.jobs

/-- Keeps what a command emits. -/
def emit : Stack η ω α role → role.Output → Stack η ω α role
  | command name method outputs progress below next, output =>
    command name method (outputs ++ [output]) progress below next
  | stack, _ => stack

/-- What follows when the innermost code has ended: its plugin is put back, and the operation that
ran it goes on. Nothing follows the code of the host. -/
def resume : Stack η ω α role → role.Ending η α → Context η ω →
    Option (Option Event × Moment η ω α)
  | host, _, _ => none
  | hook name below next, (plugin, .error cause), ctx =>
    some (some (.ends (.hook name)), .code below (next (.error cause)) (ctx.restore name plugin))
  | hook name below next, (plugin, .ok ()), ctx =>
    some (some (.ends (.hook name)), .discovery below next (ctx.restore name plugin))
  | command name method outputs progress below next, ended, ctx =>
    let (resolution, ctx) := Engine.closeCall name (ended, outputs, ctx)
    some (some (.ends (.command name method)),
      .rendering below next (progress.answer resolution) ctx)

end Stack

namespace Moment

variable {η ω α : Type}

/-- The first moment of a run of host code. -/
def start (script : Hook η ω α) (ctx : Context η ω) : Moment η ω α :=
  code .host script ctx

/-- The last moment of a run of host code. -/
def ended (a : α) (ctx : Context η ω) : Moment η ω α :=
  code .host (.done a) ctx

/-- The context at a moment. -/
def ctx : Moment η ω α → Context η ω
  | code _ _ ctx => ctx
  | rendering _ _ _ ctx => ctx
  | discovery _ _ ctx => ctx

/-- The hooks and commands whose code is under way, the innermost first. -/
def jobs : Moment η ω α → List Job
  | code stack _ _ => stack.jobs
  | rendering stack _ _ _ => stack.jobs
  | discovery stack _ _ => stack.jobs

/-- The plugins whose code is under way, the innermost first. -/
def running (m : Moment η ω α) : List Text :=
  m.jobs.map Job.plugin

/-- Whether hooks are being looked for. At any other moment code is running, the host's, a hook's
or a command's, or a text is being rendered. -/
def isDiscovery : Moment η ω α → Bool
  | discovery _ _ _ => true
  | _ => false

variable [Reads ω] [Offers η] [Handler η ω]

/-- Does the next thing. Nothing is left to do when the code of the host has ended. -/
def step : Moment η ω α → Option (Option Event × Moment η ω α)
  | code stack (.done a) ctx => stack.resume a ctx
  | code stack (.emit output next) ctx => some (none, code (stack.emit output) next ctx)
  | code stack (.render text next) ctx => some (none, rendering stack next (.begin text) ctx)
  | code stack (.load name next) ctx =>
    match ctx.catalog.activate? name with
    | some catalog => some (none, discovery stack next { ctx with catalog }.instantiate)
    | none =>
      if ctx.registry.contains name then some (none, discovery stack next ctx.instantiate)
      else some (none, code stack (next (.error (.unknownPlugin name))) ctx)
  | code stack (.register name plugin next) ctx =>
    let registry? := ctx.registry.register? name plugin
    some (none, discovery stack (fun result => next (result.map fun _ => registry?.isSome))
      { ctx with registry := registry?.getD ctx.registry }.instantiate)
  | code stack (.settle next) ctx => some (none, discovery stack next ctx.instantiate)
  | code stack (.setBase dir next) ctx => some (none, code stack next { ctx with baseDir := dir })
  | code stack (.read path next) ctx =>
    let (result, ctx) := ctx.read path
    some (none, code stack (next result) ctx)
  | code stack (.observe next) ctx => some (none, code stack (next ctx.view) ctx)
  | code stack (.update change next) ctx =>
    some (none, code stack next { ctx with world := change ctx.world })
  | rendering stack next progress ctx =>
    match progress.rest with
    | [] => some (none, code stack (next (.ok progress.output)) ctx)
    | directive :: _ =>
      match directive.call? ctx with
      | some call =>
        some (some (.starts (.command call.name call.method)),
          code (.command call.name call.method [] progress stack next)
            (Handler.invoke call.plugin call.method call.params)
            { ctx with registry := call.registry })
      | none =>
        match directive.answer ctx with
        | (.error cause, ctx) => some (none, code stack (next (.error cause)) ctx)
        | (.ok resolution, ctx) =>
          some (none, rendering stack next (progress.answer resolution) ctx)
  | discovery stack next ctx =>
    match ctx.registry.nextUninitialized? with
    | none => some (none, code stack (next (.ok ())) ctx)
    | some (name, plugin) =>
      some (some (.starts (.hook name)),
        code (.hook name stack next) (Handler.loaded plugin)
          { ctx with registry := ctx.registry.beginHook name })

section Step

variable {role : Role} {stack : Stack η ω α role} {ctx : Context η ω}

theorem step_load_of_activate {name : Text} {next : Except RenderError Unit → Code η ω α role}
    {catalog : Catalog η} (hactivate : ctx.catalog.activate? name = some catalog) :
    (code stack (.load name next) ctx).step =
      some (none, discovery stack next { ctx with catalog }.instantiate) := by
  rw [step, hactivate]

theorem step_load_of_registered {name : Text} {next : Except RenderError Unit → Code η ω α role}
    (hactivate : ctx.catalog.activate? name = none) (hcontains : ctx.registry.contains name) :
    (code stack (.load name next) ctx).step =
      some (none, discovery stack next ctx.instantiate) := by
  rw [step, hactivate]
  simp only [if_pos hcontains]

theorem step_load_of_unknown {name : Text} {next : Except RenderError Unit → Code η ω α role}
    (hactivate : ctx.catalog.activate? name = none) (hcontains : ¬ ctx.registry.contains name) :
    (code stack (.load name next) ctx).step =
      some (none, code stack (next (.error (.unknownPlugin name))) ctx) := by
  rw [step, hactivate]
  simp only [if_neg hcontains]

variable {next : Except RenderError Text → Code η ω α role} {progress : Rendering}
  {directive : Directive} {rest : List Directive}

theorem step_rendering_of_nil (hrest : progress.rest = []) :
    (rendering stack next progress ctx).step =
      some (none, code stack (next (.ok progress.output)) ctx) := by
  rw [step, hrest]

theorem step_rendering_of_call (hrest : progress.rest = directive :: rest) {call : Call η}
    (hcall : directive.call? ctx = some call) :
    (rendering stack next progress ctx).step =
      some (some (.starts (.command call.name call.method)),
        code (.command call.name call.method [] progress stack next)
          (Handler.invoke call.plugin call.method call.params)
          { ctx with registry := call.registry }) := by
  rw [step, hrest]
  simp only [hcall]

theorem step_rendering_of_error (hrest : progress.rest = directive :: rest)
    (hcall : directive.call? ctx = none) {cause : RenderError} {ctx' : Context η ω}
    (hanswer : directive.answer ctx = (.error cause, ctx')) :
    (rendering stack next progress ctx).step =
      some (none, code stack (next (.error cause)) ctx') := by
  rw [step, hrest]
  simp only [hcall, hanswer]

theorem step_rendering_of_ok (hrest : progress.rest = directive :: rest)
    (hcall : directive.call? ctx = none) {resolution : Resolution} {ctx' : Context η ω}
    (hanswer : directive.answer ctx = (.ok resolution, ctx')) :
    (rendering stack next progress ctx).step =
      some (none, rendering stack next (progress.answer resolution) ctx') := by
  rw [step, hrest]
  simp only [hcall, hanswer]

theorem step_discovery_of_none {next : Except RenderError Unit → Code η ω α role}
    (hnext : ctx.registry.nextUninitialized? = none) :
    (discovery stack next ctx).step = some (none, code stack (next (.ok ())) ctx) := by
  rw [step, hnext]

theorem step_discovery_of_some {next : Except RenderError Unit → Code η ω α role} {name : Text}
    {plugin : η} (hnext : ctx.registry.nextUninitialized? = some (name, plugin)) :
    (discovery stack next ctx).step =
      some (some (.starts (.hook name)),
        code (.hook name stack next) (Handler.loaded plugin)
          { ctx with registry := ctx.registry.beginHook name }) := by
  rw [step, hnext]

end Step

/-- The moment after a number of steps, with what happened on the way. -/
def after : Nat → Moment η ω α → Option (List Event × Moment η ω α)
  | 0, m => some ([], m)
  | n + 1, m =>
    (after n m).bind fun (events, m) =>
      m.step.map fun (event, m) => (events ++ event.toList, m)

/-- A later moment of the same run. -/
def Leads (m m' : Moment η ω α) : Prop :=
  ∃ n events, m.after n = some (events, m')

/-- A run of one more step. -/
theorem after_succ_eq_some_iff {n : Nat} {m m'' : Moment η ω α} {events : List Event} :
    m.after (n + 1) = some (events, m'') ↔
      ∃ past m' event, m.after n = some (past, m') ∧ m'.step = some (event, m'') ∧
        events = past ++ event.toList := by
  rw [after, Option.bind_eq_some_iff]
  constructor
  · rintro ⟨⟨past, m'⟩, hpast, hlast⟩
    obtain ⟨⟨event, m₁⟩, hstep, heq⟩ := Option.map_eq_some_iff.mp hlast
    cases heq
    exact ⟨past, m', event, hpast, hstep, rfl⟩
  · rintro ⟨past, m', event, hpast, hstep, rfl⟩
    exact ⟨(past, m'), hpast, Option.map_eq_some_iff.mpr ⟨_, hstep, rfl⟩⟩

theorem Leads.refl (m : Moment η ω α) : m.Leads m :=
  ⟨0, [], rfl⟩

theorem Leads.snoc {m m' m'' : Moment η ω α} {event : Option Event} (hreach : m.Leads m')
    (hstep : m'.step = some (event, m'')) : m.Leads m'' := by
  obtain ⟨n, past, hpast⟩ := hreach
  exact ⟨n + 1, _, after_succ_eq_some_iff.mpr ⟨past, m', event, hpast, hstep, rfl⟩⟩

/-- One run after another. -/
theorem after_add {n k : Nat} {m m' m'' : Moment η ω α} {past further : List Event}
    (hfirst : m.after n = some (past, m')) (hsecond : m'.after k = some (further, m'')) :
    m.after (n + k) = some (past ++ further, m'') := by
  induction k generalizing further m'' with
  | zero =>
    cases hsecond
    rw [List.append_nil]
    exact hfirst
  | succ k ih =>
    obtain ⟨further', m₁, event, hfurther, hstep, rfl⟩ := after_succ_eq_some_iff.mp hsecond
    refine after_succ_eq_some_iff.mpr ⟨past ++ further', m₁, event, ih hfurther, hstep, ?_⟩
    rw [List.append_assoc]

theorem Leads.trans {m m' m'' : Moment η ω α} (hfirst : m.Leads m') (hsecond : m'.Leads m'') :
    m.Leads m'' := by
  obtain ⟨n, past, hpast⟩ := hfirst
  obtain ⟨k, further, hfurther⟩ := hsecond
  exact ⟨n + k, past ++ further, after_add hpast hfurther⟩

theorem Leads.step {m m' m'' : Moment η ω α} {event : Option Event}
    (hstep : m.step = some (event, m')) (hrest : m'.Leads m'') : m.Leads m'' :=
  ((Leads.refl m).snoc hstep).trans hrest

end Moment

end Stencil
