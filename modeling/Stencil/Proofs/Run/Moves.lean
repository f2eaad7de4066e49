import Stencil.Proofs.Run.Turns
import Stencil.Proofs.Run.Busy

namespace Stencil

namespace Stack

variable {η ω α : Type} {role : Role}

/-- The turn in which the innermost code ends. -/
def ended : Stack η ω α role → role.Ending η α → Option (Turn η)
  | host, _ => none
  | hook name _ _, (plugin, result) => some (.ends (.hook name) plugin (.hook result))
  | command name method _ _ _ _, (plugin, result) =>
    some (.ends (.command name method) plugin (.command result))

/-- Whatever the hooks and commands under way may end with has been promised. -/
def Promises (promised : Job → η → Finish → Prop) {role : Role} :
    Stack η ω α role → Code η ω α role → Prop
  | host, _ => True
  | hook name below next, script =>
    (∀ plugin result, script.MayEnd (plugin, result) →
      promised (.hook name) plugin (.hook result)) ∧
    ∀ result, below.Promises promised (next result)
  | command name method _ _ below next, script =>
    (∀ plugin result, script.MayEnd (plugin, result) →
      promised (.command name method) plugin (.command result)) ∧
    ∀ result, below.Promises promised (next result)

variable {promised promised' : Job → η → Finish → Prop}

theorem Promises.of_mayEnd {stack : Stack η ω α role} {script script' : Code η ω α role}
    (hends : ∀ a, script'.MayEnd a → script.MayEnd a) (hpromises : stack.Promises promised script) :
    stack.Promises promised script' := by
  cases stack with
  | host => trivial
  | hook name below next =>
    exact ⟨fun plugin result hend => hpromises.1 plugin result (hends _ hend), hpromises.2⟩
  | command name method outputs progress below next =>
    exact ⟨fun plugin result hend => hpromises.1 plugin result (hends _ hend), hpromises.2⟩

theorem Promises.mono {stack : Stack η ω α role} {script : Code η ω α role}
    (hmono : ∀ job ∈ stack.jobs, ∀ plugin finish, promised job plugin finish →
      promised' job plugin finish)
    (hpromises : stack.Promises promised script) : stack.Promises promised' script := by
  induction stack with
  | host => trivial
  | hook name below next ih =>
    obtain ⟨hhook, hbelow⟩ := hpromises
    exact ⟨fun plugin result hend => hmono _ List.mem_cons_self _ _ (hhook plugin result hend),
      fun result => ih (fun job hjob => hmono job (List.mem_cons_of_mem _ hjob)) (hbelow result)⟩
  | command name method outputs progress below next ih =>
    obtain ⟨hcommand, hbelow⟩ := hpromises
    exact ⟨fun plugin result hend => hmono _ List.mem_cons_self _ _ (hcommand plugin result hend),
      fun result => ih (fun job hjob => hmono job (List.mem_cons_of_mem _ hjob)) (hbelow result)⟩

theorem Promises.emit {stack : Stack η ω α role} {script : Code η ω α role} (output : role.Output)
    (hpromises : stack.Promises promised script) :
    (stack.emit output).Promises promised script := by
  cases stack with
  | host => trivial
  | hook name below next => exact hpromises
  | command name method outputs progress below next => exact hpromises

end Stack

namespace Moment

variable {η ω α : Type}

/-- Whatever the hooks and commands under way may end with has been promised. -/
def Promises (promised : Job → η → Finish → Prop) : Moment η ω α → Prop
  | code stack script _ => stack.Promises promised script
  | rendering stack next _ _ => ∀ result, stack.Promises promised (next result)
  | discovery stack next _ => ∀ result, stack.Promises promised (next result)

theorem Promises.mono {promised promised' : Job → η → Finish → Prop} {m : Moment η ω α}
    (hmono : ∀ job ∈ m.jobs, ∀ plugin finish, promised job plugin finish →
      promised' job plugin finish)
    (hpromises : m.Promises promised) : m.Promises promised' := by
  cases m with
  | code stack script ctx => exact Stack.Promises.mono hmono hpromises
  | rendering stack next progress ctx =>
    exact fun result => Stack.Promises.mono hmono (hpromises result)
  | discovery stack next ctx => exact fun result => Stack.Promises.mono hmono (hpromises result)

/-- Whether code is asking for a plugin to be registered under a name. -/
def Registers (m : Moment η ω α) (name : Text) (plugin : η) : Prop :=
  ∃ (role : Role) (stack : Stack η ω α role) (next : Except RenderError Bool → Code η ω α role)
    (ctx : Context η ω), m = code stack (.register name plugin next) ctx

/-- Whether a handle is one that the next step may register: one of a plugin that is in the catalog
or is asked for. -/
def Provides (m : Moment η ω α) (handle : Handle η) : Prop :=
  ∃ name plugin, handle = ⟨name, some plugin, false⟩ ∧
    (m.ctx.catalog.Offers name plugin ∨ m.Registers name plugin)

variable [Offers η]

/-- The turn that begins or ends a hook or a command in the next step. -/
def turn? : Moment η ω α → Option (Turn η)
  | code stack (.done a) _ => stack.ended a
  | code _ _ _ => none
  | rendering _ _ progress ctx =>
    (progress.rest.head?.bind fun directive => directive.call? ctx).map fun call =>
      .starts (.command call.name call.method) call.plugin
  | discovery _ _ ctx =>
    ctx.registry.nextUninitialized?.map fun (name, plugin) => .starts (.hook name) plugin

/-- Whether the code that is running is a hook or a command of a plugin, at its beginning. -/
def Begins [Handler η ω] (m : Moment η ω α) : Job → η → Prop
  | .hook name, plugin =>
    ∃ (role : Role) (below : Stack η ω α role) (next : Except RenderError Unit → Code η ω α role)
      (ctx : Context η ω), m = code (.hook name below next) (Handler.loaded plugin) ctx
  | .command name method, plugin =>
    ∃ (role : Role) (below : Stack η ω α role) (next : Except RenderError Text → Code η ω α role)
      (progress : Rendering) (params : Option ParamSet) (ctx : Context η ω),
      m = code (.command name method [] progress below next)
        (Handler.invoke plugin method params) ctx

/-- What a step does to the plugins, by the hook or command that it begins or ends. -/
inductive Move (ω : Type) [Handler η ω] (m m' : Moment η ω α) : Option (Turn η) → Prop
  /-- code or a render goes on, and plugins may be registered -/
  | goesOn (added : List (Handle η)) (hjobs : m'.jobs = m.jobs)
      (hhandles : m'.ctx.registry.handles = m.ctx.registry.handles ++ added)
      (hadded : ∀ handle ∈ added, m.Provides handle)
      (hpromises : ∀ promised, m.Promises promised → m'.Promises promised) : Move ω m m' none
  /-- a plugin is taken out of its place for a hook or a command -/
  | starts {job : Job} {plugin : η} (hbegins : m'.Begins job plugin)
      (hjobs : m'.jobs = job :: m.jobs)
      (hnames : m'.ctx.registry.names = m.ctx.registry.names)
      (hcontains : m.ctx.registry.contains job.plugin)
      (hplugin : m.ctx.registry.resting job.plugin = some plugin)
      (hresting : ∀ n, m'.ctx.registry.resting n =
        if n = job.plugin then none else m.ctx.registry.resting n)
      (hpromises : ∀ promised : Job → η → Finish → Prop, m.Promises promised →
        (∀ plugin' finish, Becomes ω job plugin plugin' finish → promised job plugin' finish) →
        m'.Promises promised) :
      Move ω m m' (some (.starts job plugin))
  /-- a hook or a command ends, and what it leaves is put into the place of its plugin -/
  | ends {job : Job} {plugin : η} {finish : Finish} (hjobs : m.jobs = job :: m'.jobs)
      (hregistry : m'.ctx.registry = m.ctx.registry.restore job.plugin plugin)
      (hpromises : ∀ promised : Job → η → Finish → Prop, m.Promises promised →
        promised job plugin finish ∧ m'.Promises promised) :
      Move ω m m' (some (.ends job plugin finish))

/-- When code has ended, what it leaves is put into the place of its plugin. -/
theorem move_of_resume [Handler η ω] {role : Role} {stack : Stack η ω α role}
    {a : role.Ending η α} {ctx : Context η ω} {event : Option Event} {m' : Moment η ω α}
    (hresume : stack.resume a ctx = some (event, m')) :
    Move ω (code stack (.done a) ctx) m' (stack.ended a) := by
  cases stack with
  | host => cases hresume
  | hook name below next =>
    obtain ⟨plugin, cause | ⟨⟩⟩ := a
    · cases hresume
      exact .ends rfl rfl fun _ ⟨hhook, hbelow⟩ => ⟨hhook _ _ .done, hbelow _⟩
    · cases hresume
      exact .ends rfl rfl fun _ ⟨hhook, hbelow⟩ => ⟨hhook _ _ .done, hbelow⟩
  | command name method outputs progress below next =>
    obtain ⟨plugin, result⟩ := a
    cases hresume
    exact .ends rfl rfl fun _ ⟨hcommand, hbelow⟩ => ⟨hcommand _ _ .done, hbelow⟩

section Code

variable [Handler η ω] {role : Role} {stack : Stack η ω α role} {script : Code η ω α role}
  {ctx : Context η ω} {m' : Moment η ω α}

/-- Code that is answered at once goes on, and no plugin is added. -/
theorem move_of_answer (hturn : (code stack script ctx).turn? = none)
    (hjobs : m'.jobs = stack.jobs) (hregistry : m'.ctx.registry = ctx.registry)
    (hpromises : ∀ promised, stack.Promises promised script → m'.Promises promised) :
    Move ω (code stack script ctx) m' (code stack script ctx).turn? := by
  rw [hturn]
  refine .goesOn [] hjobs ?_ (by simp) hpromises
  rw [hregistry, List.append_nil]
  rfl

/-- Where discovery begins, plugins that are asked for and plugins of the catalog are added. -/
theorem move_of_discovery {registry : Registry η} {asked : List (Handle η)}
    (hturn : (code stack script ctx).turn? = none) (hjobs : m'.jobs = stack.jobs)
    (hregistry : m'.ctx.registry = registry.withActive m'.ctx.catalog)
    (hhandles : registry.handles = ctx.registry.handles ++ asked)
    (hasked : ∀ handle ∈ asked, (code stack script ctx).Provides handle)
    (hoffers : ∀ name plugin, m'.ctx.catalog.Offers name plugin → ctx.catalog.Offers name plugin)
    (hpromises : ∀ promised, stack.Promises promised script → m'.Promises promised) :
    Move ω (code stack script ctx) m' (code stack script ctx).turn? := by
  obtain ⟨active, hactive, hfresh⟩ := registry.exists_withActive_eq_append m'.ctx.catalog
  rw [hturn]
  refine .goesOn (asked ++ active) hjobs ?_ (fun handle hmem => ?_) hpromises
  · rw [hregistry, hactive, hhandles, List.append_assoc]
    rfl
  · rcases List.mem_append.mp hmem with hmem | hmem
    · exact hasked handle hmem
    · obtain ⟨name, plugin, heq, hoffered⟩ := hfresh handle hmem
      exact ⟨name, plugin, heq, .inl (hoffers name plugin hoffered)⟩

end Code

variable [Reads ω] [Handler η ω]

theorem move_of_code {role : Role} {stack : Stack η ω α role} {script : Code η ω α role}
    {ctx : Context η ω} {event : Option Event} {m' : Moment η ω α}
    (hstep : (code stack script ctx).step = some (event, m')) :
    Move ω (code stack script ctx) m' (code stack script ctx).turn? := by
  cases script with
  | done a => exact move_of_resume hstep
  | emit output next =>
    cases hstep
    exact move_of_answer rfl (Stack.jobs_emit stack output) rfl fun _ hpromises =>
      Stack.Promises.emit output (hpromises.of_mayEnd fun _ hend => .emit hend)
  | render text next =>
    cases hstep
    exact move_of_answer rfl rfl rfl fun _ hpromises _ =>
      hpromises.of_mayEnd fun _ hend => .render hend
  | load name next =>
    have hgoesOn : ∀ promised, stack.Promises promised (.load name next) → ∀ result,
        stack.Promises promised (next result) := fun _ hpromises _ =>
      hpromises.of_mayEnd fun _ hend => .load hend
    cases hactivate : ctx.catalog.activate? name with
    | some catalog =>
      rw [step_load_of_activate hactivate] at hstep
      cases hstep
      refine move_of_discovery rfl rfl rfl (List.append_nil _).symm (by simp) ?_ hgoesOn
      exact fun _ _ hoffered => Catalog.offers_of_activate? hactivate hoffered
    | none =>
      by_cases hcontains : ctx.registry.contains name
      · rw [step_load_of_registered hactivate hcontains] at hstep
        cases hstep
        exact move_of_discovery rfl rfl rfl (List.append_nil _).symm (by simp) (fun _ _ => id)
          hgoesOn
      · rw [step_load_of_unknown hactivate hcontains] at hstep
        cases hstep
        exact move_of_answer rfl rfl rfl fun _ hpromises => hgoesOn _ hpromises _
  | register name plugin next =>
    cases hstep
    have hgoesOn : ∀ promised, stack.Promises promised (.register name plugin next) → ∀ result,
        stack.Promises promised (next result) := fun _ hpromises _ =>
      hpromises.of_mayEnd fun _ hend => .register hend
    cases hregister : ctx.registry.register? name plugin with
    | some registry =>
      obtain ⟨-, hhandles⟩ := Registry.register?_eq_some_iff.mp hregister
      refine move_of_discovery rfl rfl rfl hhandles ?_
        (fun _ _ => id) fun _ hpromises _ => hgoesOn _ hpromises _
      intro handle hmem
      rw [List.mem_singleton.mp hmem]
      exact ⟨name, plugin, rfl, .inr ⟨role, stack, next, ctx, rfl⟩⟩
    | none =>
      exact move_of_discovery rfl rfl rfl (List.append_nil _).symm (by simp) (fun _ _ => id)
        fun _ hpromises _ => hgoesOn _ hpromises _
  | settle next =>
    cases hstep
    exact move_of_discovery rfl rfl rfl (List.append_nil _).symm (by simp) (fun _ _ => id)
      fun _ hpromises _ => hpromises.of_mayEnd fun _ hend => .settle hend
  | setBase dir next =>
    cases hstep
    exact move_of_answer rfl rfl rfl fun _ hpromises =>
      hpromises.of_mayEnd fun _ hend => .setBase hend
  | read path next =>
    cases hstep
    exact move_of_answer rfl rfl rfl fun _ hpromises =>
      hpromises.of_mayEnd fun _ hend => .read hend
  | observe next =>
    cases hstep
    exact move_of_answer rfl rfl rfl fun _ hpromises =>
      hpromises.of_mayEnd fun _ hend => .observe hend
  | update change next =>
    cases hstep
    exact move_of_answer rfl rfl rfl fun _ hpromises =>
      hpromises.of_mayEnd fun _ hend => .update hend

theorem move_of_rendering {role : Role} {stack : Stack η ω α role}
    {next : Except RenderError Text → Code η ω α role} {progress : Rendering} {ctx : Context η ω}
    {event : Option Event} {m' : Moment η ω α}
    (hstep : (rendering stack next progress ctx).step = some (event, m')) :
    Move ω (rendering stack next progress ctx) m' (rendering stack next progress ctx).turn? := by
  cases hrest : progress.rest with
  | nil =>
    have hturn : (rendering stack next progress ctx).turn? = none := by
      rw [turn?, hrest]
      rfl
    rw [step_rendering_of_nil hrest] at hstep
    cases hstep
    rw [hturn]
    exact .goesOn [] rfl (List.append_nil _).symm (by simp) fun _ hpromises =>
      hpromises _
  | cons directive rest =>
    cases hcall : directive.call? ctx with
    | some call =>
      have hturn : (rendering stack next progress ctx).turn? =
          some (.starts (.command call.name call.method) call.plugin) := by
        rw [turn?, hrest, List.head?_cons, Option.bind_some, hcall]
        rfl
      have hlend := Directive.lend?_of_call? hcall
      rw [step_rendering_of_call hrest hcall] at hstep
      cases hstep
      rw [hturn]
      exact .starts ⟨_, _, _, _, _, _, rfl⟩ rfl (Registry.names_lend hlend)
        (Registry.contains_of_lend? hlend) (Registry.resting_of_lend? hlend)
        (Registry.resting_lend hlend)
        fun _ hpromises hbecomes =>
          ⟨fun _ _ hend => hbecomes _ _ (.command hend), fun _ => hpromises _⟩
    | none =>
      have hturn : (rendering stack next progress ctx).turn? = none := by
        rw [turn?, hrest, List.head?_cons, Option.bind_some, hcall]
        rfl
      have hgoesOn : ∀ m' : Moment η ω α, m'.ctx = (directive.answer ctx).2 →
          m'.jobs = stack.jobs →
          (∀ promised, (rendering stack next progress ctx).Promises promised →
            m'.Promises promised) →
          Move ω (rendering stack next progress ctx) m' none := by
        intro m' hctx hjobs hpromises
        refine .goesOn [] hjobs ?_ (by simp) hpromises
        rw [hctx, (directive.answer_keeps ctx).1, List.append_nil]
        rfl
      rw [hturn]
      rcases hanswer : directive.answer ctx with ⟨cause | resolution, ctx₁⟩
      · rw [step_rendering_of_error hrest hcall hanswer] at hstep
        cases hstep
        exact hgoesOn _ (by rw [hanswer]; rfl) rfl fun _ hpromises => hpromises _
      · rw [step_rendering_of_ok hrest hcall hanswer] at hstep
        cases hstep
        exact hgoesOn _ (by rw [hanswer]; rfl) rfl fun _ hpromises => hpromises

theorem move_of_looking {role : Role} {stack : Stack η ω α role}
    {next : Except RenderError Unit → Code η ω α role} {ctx : Context η ω}
    {event : Option Event} {m' : Moment η ω α}
    (hstep : (discovery stack next ctx).step = some (event, m')) :
    Move ω (discovery stack next ctx) m' (discovery stack next ctx).turn? := by
  rw [turn?]
  cases hnext : ctx.registry.nextUninitialized? with
  | none =>
    rw [step_discovery_of_none hnext] at hstep
    cases hstep
    exact .goesOn [] rfl (List.append_nil _).symm (by simp) fun _ hpromises =>
      hpromises _
  | some waiting =>
    obtain ⟨name, plugin⟩ := waiting
    have hcontains := (Registry.of_nextUninitialized? hnext).1
    rw [step_discovery_of_some hnext] at hstep
    cases hstep
    exact .starts ⟨_, _, _, _, rfl⟩ rfl Registry.names_beginHook hcontains
      (Registry.resting_of_nextUninitialized? hnext) (Registry.resting_beginHook hcontains)
      fun _ hpromises hbecomes => ⟨fun _ _ hend => hbecomes _ _ (.hook hend), fun _ => hpromises _⟩

theorem move_of_step {m m' : Moment η ω α} {event : Option Event}
    (hstep : m.step = some (event, m')) : Move ω m m' m.turn? := by
  cases m with
  | code stack script ctx => exact move_of_code hstep
  | rendering stack next progress ctx => exact move_of_rendering hstep
  | discovery stack next ctx => exact move_of_looking hstep

end Moment

end Stencil
