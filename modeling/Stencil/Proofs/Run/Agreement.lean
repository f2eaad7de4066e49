import Stencil.Proofs.Run.Progress

namespace Stencil

namespace Stack

variable {η ω α : Type} {role : Role}

theorem foldl_emit_command (name method : Text) (progress : Rendering) (below : Stack η ω α role)
    (next : Except RenderError Text → Code η ω α role) (outputs further : List Text) :
    further.foldl emit (command name method outputs progress below next) =
      command name method (outputs ++ further) progress below next := by
  induction further generalizing outputs with
  | nil => rw [List.append_nil, List.foldl_nil]
  | cons output further ih =>
    rw [List.foldl_cons, emit, ih, List.append_assoc]
    rfl

theorem foldl_emit_hook (name : Text) (below : Stack η ω α role)
    (next : Except RenderError Unit → Code η ω α role) (outputs : List Empty) :
    outputs.foldl emit (hook name below next) = hook name below next := by
  cases outputs with
  | nil => rfl
  | cons output => exact output.elim

theorem foldl_emit_host (outputs : List Empty) :
    outputs.foldl emit (host : Stack η ω α .host) = host := by
  cases outputs with
  | nil => rfl
  | cons output => exact output.elim

end Stack

open Moment

variable {η ω α : Type} [Reads ω] [Offers η] [Handler η ω]

/-- What the operations of an engine come to, a run comes to as well, wherever they are called. -/
structure Engine.Followed (below : Engine η ω) (α : Type) : Prop where
  render : ∀ {role : Role} (stack : Stack η ω α role)
    (next : Except RenderError Text → Code η ω α role) {text : Text} {ctx ctx' : Context η ω}
    {result : Except RenderError Text}, below.render text ctx = some (result, ctx') →
      (rendering stack next (.begin text) ctx).Leads (code stack (next result) ctx')
  runHooks : ∀ {role : Role} (stack : Stack η ω α role)
    (next : Except RenderError Unit → Code η ω α role) {ctx ctx' : Context η ω}
    {result : Except RenderError Unit}, below.runHooks ctx = some (result, ctx') →
      (discovery stack next ctx).Leads (code stack (next result) ctx')

namespace Engine.Followed

variable {below : Engine η ω} {role : Role}

theorem run (hbelow : below.Followed α) (stack : Stack η ω α role) (script : Code η ω α role)
    {ctx ctx' : Context η ω} {a : role.Ending η α} {outputs : List role.Output}
    (hrun : below.run script ctx = some (a, outputs, ctx')) :
    (code stack script ctx).Leads (code (outputs.foldl Stack.emit stack) (.done a) ctx') := by
  induction script generalizing stack ctx outputs with
  | done value =>
    cases hrun
    exact .refl _
  | emit output next ih =>
    rw [Engine.run, Option.map_eq_some_iff] at hrun
    obtain ⟨⟨value, outputs, ctx₁⟩, hnext, heq⟩ := hrun
    cases heq
    exact .step rfl (ih (stack.emit output) hnext)
  | render text next ih =>
    rw [Engine.run, Option.bind_eq_some_iff] at hrun
    obtain ⟨⟨result, ctx₁⟩, hrender, hnext⟩ := hrun
    exact .step rfl ((hbelow.render stack next hrender).trans (ih result stack hnext))
  | load name next ih =>
    rw [Engine.run, Option.bind_eq_some_iff] at hrun
    obtain ⟨⟨result, ctx₁⟩, hload, hnext⟩ := hrun
    refine .trans ?_ (ih result stack hnext)
    rw [Engine.load] at hload
    cases hactivate : ctx.catalog.activate? name with
    | some catalog =>
      simp only [hactivate, settle] at hload
      exact .step (step_load_of_activate hactivate) (hbelow.runHooks stack next hload)
    | none =>
      by_cases hcontains : ctx.registry.contains name
      · simp only [hactivate, if_pos hcontains, settle] at hload
        exact .step (step_load_of_registered hactivate hcontains)
          (hbelow.runHooks stack next hload)
      · simp only [hactivate, if_neg hcontains] at hload
        cases hload
        exact .step (step_load_of_unknown hactivate hcontains) (.refl _)
  | register name plugin next ih =>
    rw [Engine.run, Option.bind_eq_some_iff] at hrun
    obtain ⟨⟨result, ctx₁⟩, hregister, hnext⟩ := hrun
    rw [Engine.register, Option.bind_eq_some_iff] at hregister
    obtain ⟨⟨settled, ctx₂⟩, hsettle, heq⟩ := hregister
    cases heq
    exact .step rfl ((hbelow.runHooks stack _ hsettle).trans (ih _ stack hnext))
  | settle next ih =>
    rw [Engine.run, Option.bind_eq_some_iff] at hrun
    obtain ⟨⟨result, ctx₁⟩, hsettle, hnext⟩ := hrun
    exact .step rfl ((hbelow.runHooks stack next hsettle).trans (ih result stack hnext))
  | setBase dir next ih => exact .step rfl (ih stack hrun)
  | read path next ih => exact .step rfl (ih _ stack hrun)
  | observe next ih => exact .step rfl (ih _ stack hrun)
  | update change next ih => exact .step rfl (ih stack hrun)

/-- From any point of a render, a run comes to what is left of it. -/
theorem finish (hbelow : below.Followed α) (stack : Stack η ω α role)
    (next : Except RenderError Text → Code η ω α role) {progress : Rendering}
    {ctx ctx' : Context η ω} {result : Except RenderError Text}
    (hfinish : below.finish progress ctx = some (result, ctx')) :
    (rendering stack next progress ctx).Leads (code stack (next result) ctx') := by
  induction hrest : progress.rest generalizing progress ctx with
  | nil =>
    rw [finish_of_rest_eq_nil below ctx hrest] at hfinish
    cases hfinish
    exact .step (step_rendering_of_nil hrest) (.refl _)
  | cons directive rest ih =>
    rw [finish_of_rest_eq_cons below hrest] at hfinish
    have hanswered := fun resolution => Rendering.rest_answer hrest resolution
    cases hcall : directive.call? ctx with
    | some call =>
      rw [hcall] at hfinish
      obtain ⟨⟨⟨plugin, answered⟩, outputs, ctx₁⟩, hrun, hrest'⟩ :=
        Option.bind_eq_some_iff.mp hfinish
      have hcommand := hbelow.run (.command call.name call.method [] progress stack next) _ hrun
      rw [Stack.foldl_emit_command] at hcommand
      exact .step (step_rendering_of_call hrest hcall)
        (hcommand.trans (.step rfl (ih hrest' (hanswered _))))
    | none =>
      rw [hcall] at hfinish
      rcases hanswer : directive.answer ctx with ⟨cause | resolution, ctx₁⟩
      · simp only [hanswer] at hfinish
        cases hfinish
        exact .step (step_rendering_of_error hrest hcall hanswer) (.refl _)
      · simp only [hanswer] at hfinish
        exact .step (step_rendering_of_ok hrest hcall hanswer) (ih hfinish (hanswered _))

/-- From the point at which hooks are looked for, a run comes to the end of the pass. -/
theorem runHooksStep (hbelow : below.Followed α) (stack : Stack η ω α role)
    (next : Except RenderError Unit → Code η ω α role) {ctx ctx' : Context η ω}
    {result : Except RenderError Unit} (hhooks : below.runHooksStep ctx = some (result, ctx')) :
    (discovery stack next ctx).Leads (code stack (next result) ctx') := by
  rw [Engine.runHooksStep] at hhooks
  cases hnext : ctx.registry.nextUninitialized? with
  | none =>
    rw [hnext] at hhooks
    cases hhooks
    exact .step (step_discovery_of_none hnext) (.refl _)
  | some waiting =>
    obtain ⟨name, plugin⟩ := waiting
    rw [hnext] at hhooks
    obtain ⟨⟨⟨plugin', ended⟩, outputs, ctx₁⟩, hrun, hrest⟩ := Option.bind_eq_some_iff.mp hhooks
    have hhook := hbelow.run (.hook name stack next) _ hrun
    rw [Stack.foldl_emit_hook] at hhook
    refine .step (step_discovery_of_some hnext) (hhook.trans ?_)
    cases ended with
    | error cause =>
      cases hrest
      exact .step rfl (.refl _)
    | ok =>
      exact .step rfl (hbelow.runHooks stack next hrest)

end Engine.Followed

/-- What an engine of any depth comes to, a run comes to as well. -/
theorem followed_engine (depth : Nat) : (engine depth : Engine η ω).Followed α := by
  induction depth with
  | zero =>
    refine ⟨?_, ?_⟩
    · intro role stack next text ctx ctx' result hrender
      cases hrender
    · intro role stack next ctx ctx' result hhooks
      cases hhooks
  | succ depth ih =>
    -- both operations are one level of steps over the operations of the engine below
    refine ⟨?_, ?_⟩
    · intro role stack next text ctx ctx' result hrender
      exact ih.finish stack next hrender
    · intro role stack next ctx ctx' result hhooks
      exact ih.runHooksStep stack next hhooks

/-- What the host's code comes to, once the innermost code has ended and the calls around it are
gone through with the operations of an engine. -/
def Stack.close (below : Engine η ω) {role : Role} : Stack η ω α role →
    role.Ending η α × List role.Output × Context η ω → Option (α × Context η ω)
  | host, (a, _, ctx) => some (a, ctx)
  | hook name stack next, ((plugin, .error cause), _, ctx) =>
    (below.run (next (.error cause)) (ctx.restore name plugin)).bind (stack.close below)
  | hook name stack next, ((plugin, .ok ()), _, ctx) =>
    (below.runHooksStep (ctx.restore name plugin)).bind fun (result, ctx) =>
      (below.run (next result) ctx).bind (stack.close below)
  | command name _ outputs progress stack next, (ended, further, ctx) =>
    let (resolution, ctx) := Engine.closeCall name (ended, outputs ++ further, ctx)
    (below.finish (progress.answer resolution) ctx).bind fun (result, ctx) =>
      (below.run (next result) ctx).bind (stack.close below)

/-- What the host's code comes to, when a run is gone on with by the operations of an engine. -/
def Moment.outcome (below : Engine η ω) : Moment η ω α → Option (α × Context η ω)
  | code stack script ctx => (below.run script ctx).bind (stack.close below)
  | rendering stack next progress ctx =>
    (below.finish progress ctx).bind fun (result, ctx) =>
      (below.run (next result) ctx).bind (stack.close below)
  | discovery stack next ctx =>
    (below.runHooksStep ctx).bind fun (result, ctx) =>
      (below.run (next result) ctx).bind (stack.close below)

namespace Engine.Extends

variable {below above : Engine η ω} {role : Role}

theorem close (habove : below.Extends above) {stack : Stack η ω α role}
    {ended : role.Ending η α × List role.Output × Context η ω} {last : α × Context η ω}
    (hclose : stack.close below ended = some last) : stack.close above ended = some last := by
  induction stack with
  | host => exact hclose
  | hook name stack next ih =>
    obtain ⟨⟨plugin, cause | ⟨⟩⟩, outputs, ctx⟩ := ended
    · simp only [Stack.close, Option.bind_eq_some_iff] at hclose ⊢
      obtain ⟨ended', hrun, hclose⟩ := hclose
      exact ⟨ended', habove.run hrun, ih hclose⟩
    · simp only [Stack.close, Option.bind_eq_some_iff] at hclose ⊢
      obtain ⟨settled, hhooks, ended', hrun, hclose⟩ := hclose
      exact ⟨settled, habove.runHooksStep hhooks, ended', habove.run hrun, ih hclose⟩
  | command name method outputs progress stack next ih =>
    obtain ⟨⟨plugin, result⟩, further, ctx⟩ := ended
    simp only [Stack.close, Option.bind_eq_some_iff] at hclose ⊢
    obtain ⟨rendered, hfinish, ended', hrun, hclose⟩ := hclose
    exact ⟨rendered, habove.finish hfinish, ended', habove.run hrun, ih hclose⟩

theorem code (habove : below.Extends above) {stack : Stack η ω α role}
    {script : Code η ω α role} {ctx : Context η ω} {last : α × Context η ω}
    (hcode : (below.run script ctx).bind (stack.close below) = some last) :
    (above.run script ctx).bind (stack.close above) = some last := by
  obtain ⟨ended, hrun, hclose⟩ := Option.bind_eq_some_iff.mp hcode
  exact Option.bind_eq_some_iff.mpr ⟨ended, habove.run hrun, habove.close hclose⟩

end Engine.Extends

namespace Moment

variable {role : Role}

/-- Going on after an operation: the engine with one more level comes to what the one below it
came to. -/
theorem outcome_of_bind {β : Type} {depth : Nat} (stack : Stack η ω α role)
    (next : β → Code η ω α role) {operation operation' : Option (β × Context η ω)}
    {last : α × Context η ω}
    (hoperation : ∀ ended, operation = some ended → operation' = some ended)
    (houtcome : (operation.bind fun (result, ctx) =>
      ((engine depth).run (next result) ctx).bind (stack.close (engine depth))) = some last) :
    (operation'.bind fun (result, ctx) =>
      ((engine (depth + 1)).run (next result) ctx).bind (stack.close (engine (depth + 1)))) =
      some last := by
  obtain ⟨⟨result, ctx⟩, hended, hcode⟩ := Option.bind_eq_some_iff.mp houtcome
  rw [hoperation _ hended, Option.bind_some]
  exact (Engine.extends_engine depth).code hcode

/-- What code that begins with an operation comes to. -/
theorem bind_close {β : Type} (below : Engine η ω) (stack : Stack η ω α role)
    (next : β → Code η ω α role) (operation : Option (β × Context η ω)) :
    (operation.bind fun (result, ctx) => below.run (next result) ctx).bind (stack.close below) =
      operation.bind fun (result, ctx) =>
        (below.run (next result) ctx).bind (stack.close below) := by
  cases operation <;> rfl

/-- Putting something out now is as good as putting it out before what comes later. -/
theorem close_emit (below : Engine η ω) (stack : Stack η ω α role) (output : role.Output)
    (a : role.Ending η α) (outputs : List role.Output) (ctx : Context η ω) :
    (stack.emit output).close below (a, outputs, ctx) =
      stack.close below (a, output :: outputs, ctx) := by
  cases stack with
  | host => exact output.elim
  | hook name stack next => exact output.elim
  | command name method emitted progress stack next =>
    obtain ⟨plugin, result⟩ := a
    rw [Stack.emit, Stack.close, Stack.close, List.append_assoc]
    rfl

/-- When code has ended, what is left of the calls around it is what the next moment begins with. -/
theorem outcome_of_resume {below : Engine η ω} {stack : Stack η ω α role} {a : role.Ending η α}
    {ctx : Context η ω} {event : Option Event} {m' : Moment η ω α}
    (hresume : stack.resume a ctx = some (event, m')) :
    m'.outcome below = stack.close below (a, [], ctx) := by
  cases stack with
  | host => cases hresume
  | hook name stack next =>
    obtain ⟨plugin, cause | ⟨⟩⟩ := a
    · cases hresume
      rfl
    · cases hresume
      rfl
  | command name method outputs progress stack next =>
    obtain ⟨plugin, result⟩ := a
    cases hresume
    rw [outcome, Stack.close, List.append_nil]
    rfl

theorem outcome_of_code {depth : Nat} {stack : Stack η ω α role} {script : Code η ω α role}
    {ctx : Context η ω} {m' : Moment η ω α} {event : Option Event} {last : α × Context η ω}
    (hstep : (code stack script ctx).step = some (event, m'))
    (houtcome : m'.outcome (engine depth) = some last) :
    (code stack script ctx).outcome (engine (depth + 1)) = some last := by
  have habove : (engine depth : Engine η ω).Extends (engine (depth + 1)) :=
    Engine.extends_engine depth
  cases script with
  | done a =>
    rw [outcome_of_resume hstep] at houtcome
    exact habove.close houtcome
  | emit output next =>
    cases hstep
    obtain ⟨⟨a, outputs, ctx₁⟩, hrun, hclose⟩ := Option.bind_eq_some_iff.mp houtcome
    rw [close_emit] at hclose
    rw [outcome, Engine.run, habove.run hrun]
    exact habove.close hclose
  | render text next =>
    cases hstep
    rw [outcome, Engine.run, bind_close]
    exact outcome_of_bind stack next (fun _ hended => hended) houtcome
  | load name next =>
    rw [outcome, Engine.run, bind_close]
    cases hactivate : ctx.catalog.activate? name with
    | some catalog =>
      rw [step_load_of_activate hactivate] at hstep
      cases hstep
      refine outcome_of_bind stack next (fun ended hended => ?_) houtcome
      rw [Engine.load, hactivate]
      exact hended
    | none =>
      by_cases hcontains : ctx.registry.contains name
      · rw [step_load_of_registered hactivate hcontains] at hstep
        cases hstep
        refine outcome_of_bind stack next (fun ended hended => ?_) houtcome
        simp only [Engine.load, hactivate, if_pos hcontains]
        exact hended
      · rw [step_load_of_unknown hactivate hcontains] at hstep
        cases hstep
        simp only [Engine.load, hactivate, if_neg hcontains, Option.bind_some]
        exact habove.code houtcome
  | register name plugin next =>
    cases hstep
    rw [outcome, Engine.run, bind_close, Engine.register, Option.bind_assoc]
    exact outcome_of_bind stack (fun result : Except RenderError Unit => next (result.map _))
      (fun _ hended => hended) houtcome
  | settle next =>
    cases hstep
    rw [outcome, Engine.run, bind_close]
    exact outcome_of_bind stack next (fun _ hended => hended) houtcome
  | setBase dir next | read path next | observe next | update change next =>
    cases hstep
    exact habove.code houtcome

theorem outcome_of_rendering {depth : Nat} {stack : Stack η ω α role}
    {next : Except RenderError Text → Code η ω α role} {progress : Rendering} {ctx : Context η ω}
    {m' : Moment η ω α} {event : Option Event} {last : α × Context η ω}
    (hstep : (rendering stack next progress ctx).step = some (event, m'))
    (houtcome : m'.outcome (engine depth) = some last) :
    (rendering stack next progress ctx).outcome (engine (depth + 1)) = some last := by
  have habove : (engine depth : Engine η ω).Extends (engine (depth + 1)) :=
    Engine.extends_engine depth
  cases hrest : progress.rest with
  | nil =>
    rw [step_rendering_of_nil hrest] at hstep
    cases hstep
    rw [outcome, Engine.finish_of_rest_eq_nil _ ctx hrest, Option.bind_some]
    exact habove.code houtcome
  | cons directive rest =>
    rw [outcome, Engine.finish_of_rest_eq_cons _ hrest]
    cases hcall : directive.call? ctx with
    | some call =>
      rw [step_rendering_of_call hrest hcall] at hstep
      cases hstep
      obtain ⟨ended, hrun, hclose⟩ := Option.bind_eq_some_iff.mp houtcome
      simp only [habove.run hrun, Option.bind_some]
      exact habove.close hclose
    | none =>
      rcases hanswer : directive.answer ctx with ⟨cause | resolution, ctx₁⟩
      · rw [step_rendering_of_error hrest hcall hanswer] at hstep
        cases hstep
        simp only [Option.bind_some]
        exact habove.code houtcome
      · rw [step_rendering_of_ok hrest hcall hanswer] at hstep
        cases hstep
        exact outcome_of_bind stack next (fun _ hended => habove.finish hended) houtcome

theorem outcome_of_looking {depth : Nat} {stack : Stack η ω α role}
    {next : Except RenderError Unit → Code η ω α role} {ctx : Context η ω} {m' : Moment η ω α}
    {event : Option Event} {last : α × Context η ω}
    (hstep : (discovery stack next ctx).step = some (event, m'))
    (houtcome : m'.outcome (engine depth) = some last) :
    (discovery stack next ctx).outcome (engine (depth + 1)) = some last := by
  have habove : (engine depth : Engine η ω).Extends (engine (depth + 1)) :=
    Engine.extends_engine depth
  rw [outcome, Engine.runHooksStep]
  cases hnext : ctx.registry.nextUninitialized? with
  | none =>
    rw [step_discovery_of_none hnext] at hstep
    cases hstep
    rw [Option.bind_some]
    exact habove.code houtcome
  | some waiting =>
    obtain ⟨name, plugin⟩ := waiting
    rw [step_discovery_of_some hnext] at hstep
    cases hstep
    obtain ⟨⟨⟨plugin', result⟩, outputs, ctx₁⟩, hrun, hclose⟩ :=
      Option.bind_eq_some_iff.mp houtcome
    simp only [habove.run hrun, Option.bind_some]
    cases result with
    | error cause => exact habove.close hclose
    | ok => exact outcome_of_bind stack next (fun _ hended => hended) hclose

/-- A step does not change what a run comes to. Going back over it may take one more level of depth,
since the step may be the one into an operation. -/
theorem outcome_of_step {depth : Nat} {m m' : Moment η ω α} {event : Option Event}
    {last : α × Context η ω} (hstep : m.step = some (event, m'))
    (houtcome : m'.outcome (engine depth) = some last) :
    m.outcome (engine (depth + 1)) = some last := by
  cases m with
  | code stack script ctx => exact outcome_of_code hstep houtcome
  | rendering stack next progress ctx => exact outcome_of_rendering hstep houtcome
  | discovery stack next ctx => exact outcome_of_looking hstep houtcome

/-- What a run comes to from a later moment, it comes to from the start. -/
theorem outcome_of_after {n depth : Nat} {m m' : Moment η ω α} {events : List Event}
    {last : α × Context η ω} (hafter : m.after n = some (events, m'))
    (houtcome : m'.outcome (engine depth) = some last) :
    m.outcome (engine (depth + n)) = some last := by
  induction n generalizing depth m' events with
  | zero =>
    cases hafter
    exact houtcome
  | succ n ih =>
    obtain ⟨past, m₁, event, hpast, hstep, -⟩ := after_succ_eq_some_iff.mp hafter
    have hbefore := ih hpast (outcome_of_step hstep houtcome)
    rwa [Nat.add_right_comm] at hbefore

end Moment

/-- Host code ends in a context just when a run of it comes to that end. -/
theorem Context.run_eq_some_iff_leads {script : Hook η ω α} {ctx ctx' : Context η ω} {a : α} :
    (∃ depth, ctx.run depth script = some (a, ctx')) ↔
      (start script ctx).Leads (ended a ctx') := by
  constructor
  · rintro ⟨depth, hrun⟩
    obtain ⟨⟨value, outputs, ctx₁⟩, hengine, heq⟩ := Option.map_eq_some_iff.mp hrun
    cases heq
    have hleads := (followed_engine depth).run (.host : Stack η ω α .host) script hengine
    rw [Stack.foldl_emit_host] at hleads
    exact hleads
  · rintro ⟨n, events, hafter⟩
    have hended : (ended a ctx' : Moment η ω α).outcome (engine 0) = some (a, ctx') := rfl
    obtain ⟨⟨value, outputs, ctx₁⟩, hrun, hclose⟩ :=
      Option.bind_eq_some_iff.mp (outcome_of_after hafter hended)
    cases hclose
    exact ⟨0 + n, Option.map_eq_some_iff.mpr ⟨_, hrun, rfl⟩⟩

end Stencil
