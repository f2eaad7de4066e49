import Stencil.Proofs.Registry.Names
import Stencil.Proofs.Run.Moment

namespace Stencil

namespace Engine

variable {η ω : Type} [Reads ω] [Offers η]

/-- An engine that comes to whatever another one comes to. -/
structure Extends (below above : Engine η ω) : Prop where
  render : ∀ {text : Text} {ctx : Context η ω} {ended : Except RenderError Text × Context η ω},
    below.render text ctx = some ended → above.render text ctx = some ended
  runHooks : ∀ {ctx : Context η ω} {ended : Except RenderError Unit × Context η ω},
    below.runHooks ctx = some ended → above.runHooks ctx = some ended

namespace Extends

variable {below above : Engine η ω}

theorem run {ε β : Type} (habove : below.Extends above) {script : Script ε η ω β}
    {ctx : Context η ω} {ended : β × List ε × Context η ω}
    (hrun : below.run script ctx = some ended) : above.run script ctx = some ended := by
  induction script generalizing ctx ended with
  | done value => exact hrun
  | emit output next ih =>
    rw [Engine.run, Option.map_eq_some_iff] at hrun ⊢
    obtain ⟨ended', hnext, heq⟩ := hrun
    exact ⟨ended', ih hnext, heq⟩
  | render text next ih =>
    rw [Engine.run, Option.bind_eq_some_iff] at hrun ⊢
    obtain ⟨⟨result, ctx₁⟩, hrender, hnext⟩ := hrun
    exact ⟨_, habove.render hrender, ih result hnext⟩
  | load name next ih =>
    rw [Engine.run, Option.bind_eq_some_iff] at hrun ⊢
    obtain ⟨⟨result, ctx₁⟩, hload, hnext⟩ := hrun
    refine ⟨(result, ctx₁), ?_, ih result hnext⟩
    rw [Engine.load] at hload ⊢
    cases hactivate : ctx.catalog.activate? name with
    | some catalog =>
      rw [hactivate] at hload
      exact habove.runHooks hload
    | none =>
      by_cases hcontains : ctx.registry.contains name
      · simp only [hactivate, if_pos hcontains] at hload ⊢
        exact habove.runHooks hload
      · simp only [hactivate, if_neg hcontains] at hload ⊢
        exact hload
  | register name plugin next ih =>
    rw [Engine.run, Option.bind_eq_some_iff] at hrun ⊢
    obtain ⟨⟨result, ctx₁⟩, hregister, hnext⟩ := hrun
    refine ⟨(result, ctx₁), ?_, ih result hnext⟩
    rw [Engine.register, Option.bind_eq_some_iff] at hregister ⊢
    obtain ⟨settled, hsettle, heq⟩ := hregister
    exact ⟨settled, habove.runHooks hsettle, heq⟩
  | settle next ih =>
    rw [Engine.run, Option.bind_eq_some_iff] at hrun ⊢
    obtain ⟨⟨result, ctx₁⟩, hsettle, hnext⟩ := hrun
    exact ⟨_, habove.runHooks hsettle, ih result hnext⟩
  | setBase dir next ih => exact ih hrun
  | read path next ih => exact ih _ hrun
  | observe next ih => exact ih _ hrun
  | update change next ih => exact ih hrun

end Extends

variable [Handler η ω]

/-- A directive either starts a command, which decides its text, or is answered at once. -/
theorem dispatch_eq (below : Engine η ω) (directive : Directive) (ctx : Context η ω) :
    below.dispatch directive ctx =
      match directive.call? ctx with
      | some call =>
        (below.run (Handler.invoke call.plugin call.method call.params)
            { ctx with registry := call.registry }).map fun ended =>
          let (resolution, ctx) := closeCall call.name ended
          (.ok resolution, ctx)
      | none => some (directive.answer ctx) := by
  rw [dispatch, Directive.call?, Directive.answer]
  cases directive.target with
  | bare name => rfl
  | call name method params =>
    simp only
    cases hlend : ctx.registry.lend? name with
    | none =>
      have hcall : below.call name method params ctx = some (.error (.busy name), ctx) := by
        rw [call, hlend]
      rw [hcall]
      split
      · rfl
      split
      · cases params.get "file" <;> rfl
      · rfl
    | some lent =>
      obtain ⟨plugin, registry⟩ := lent
      have hcontains := Registry.contains_of_lend? hlend
      rw [if_pos hcontains, call, hlend]
      simp only [if_pos hcontains]
      by_cases haccepts : (Offers.offer plugin).accepts method
      · simp only [if_pos haccepts, Option.map_map]
        rfl
      · simp only [if_neg haccepts]
        rfl

/-- What is left to do of a render; of one that has just begun, that is all of it. -/
def finish (below : Engine η ω) (progress : Rendering) (ctx : Context η ω) : Outcome η ω Text :=
  (below.dispatchAll progress.rest ctx).map fun (result, ctx) =>
    (result.map fun further =>
      Rendering.output { progress with resolved := progress.resolved ++ further }, ctx)

theorem finish_of_rest_eq_nil (below : Engine η ω) {progress : Rendering} (ctx : Context η ω)
    (hrest : progress.rest = []) :
    below.finish progress ctx = some (.ok progress.output, ctx) := by
  simp [finish, hrest, dispatchAll, Except.map, Rendering.output]

/-- A render whose next directive is answered goes on with the ones behind it. -/
theorem finish_answer (below : Engine η ω) {progress : Rendering} {directive : Directive}
    {rest : List Directive} (hrest : progress.rest = directive :: rest) (resolution : Resolution)
    (ctx : Context η ω) :
    below.finish (progress.answer resolution) ctx =
      ((below.dispatchAll rest ctx).map fun (results, ctx) =>
        (results.map ((directive, resolution) :: ·), ctx)).map fun (result, ctx) =>
          (result.map fun further =>
            Rendering.output { progress with resolved := progress.resolved ++ further }, ctx) := by
  rw [finish, Rendering.answer, hrest, Option.map_map]
  congr 1
  funext ended
  obtain ⟨result, ctx'⟩ := ended
  cases result with
  | error cause => rfl
  | ok further => simp [Except.map, Rendering.output]

/-- A render whose next directive starts a command goes on when the command has ended; one whose
next directive starts none goes on at once, or fails. -/
theorem finish_of_rest_eq_cons (below : Engine η ω) {progress : Rendering} {directive : Directive}
    {rest : List Directive} (hrest : progress.rest = directive :: rest) (ctx : Context η ω) :
    below.finish progress ctx =
      match directive.call? ctx with
      | some call =>
        (below.run (Handler.invoke call.plugin call.method call.params)
            { ctx with registry := call.registry }).bind fun ended =>
          let (resolution, ctx) := closeCall call.name ended
          below.finish (progress.answer resolution) ctx
      | none =>
        match directive.answer ctx with
        | (.error cause, ctx) => some (.error cause, ctx)
        | (.ok resolution, ctx) => below.finish (progress.answer resolution) ctx := by
  simp only [finish_answer below hrest]
  rw [finish, hrest, dispatchAll, dispatch_eq]
  cases hcall : directive.call? ctx with
  | some call =>
    simp only
    cases below.run (Handler.invoke call.plugin call.method call.params)
        { ctx with registry := call.registry } with
    | none => rfl
    | some ended => rfl
  | none =>
    obtain ⟨result, ctx'⟩ := directive.answer ctx
    cases result <;> rfl

namespace Extends

variable {below above : Engine η ω}

theorem finish (habove : below.Extends above) {progress : Rendering} {ctx : Context η ω}
    {ended : Except RenderError Text × Context η ω}
    (hfinish : below.finish progress ctx = some ended) :
    above.finish progress ctx = some ended := by
  induction hrest : progress.rest generalizing progress ctx with
  | nil =>
    rw [finish_of_rest_eq_nil _ ctx hrest] at hfinish ⊢
    exact hfinish
  | cons directive rest ih =>
    rw [finish_of_rest_eq_cons _ hrest] at hfinish ⊢
    have hanswered := fun resolution => Rendering.rest_answer hrest resolution
    cases hcall : directive.call? ctx with
    | some call =>
      simp only [hcall, Option.bind_eq_some_iff] at hfinish ⊢
      obtain ⟨ended', hrun, hrest'⟩ := hfinish
      exact ⟨ended', habove.run hrun, ih hrest' (hanswered _)⟩
    | none =>
      rcases hanswer : directive.answer ctx with ⟨cause | resolution, ctx₁⟩
      · simp only [hcall, hanswer] at hfinish ⊢
        exact hfinish
      · simp only [hcall, hanswer] at hfinish ⊢
        exact ih hfinish (hanswered _)

theorem runHooksStep (habove : below.Extends above) {ctx : Context η ω}
    {ended : Except RenderError Unit × Context η ω}
    (hhooks : below.runHooksStep ctx = some ended) : above.runHooksStep ctx = some ended := by
  rw [Engine.runHooksStep] at hhooks ⊢
  cases hnext : ctx.registry.nextUninitialized? with
  | none =>
    rw [hnext] at hhooks
    exact hhooks
  | some waiting =>
    obtain ⟨name, plugin⟩ := waiting
    simp only [hnext, Option.bind_eq_some_iff] at hhooks ⊢
    obtain ⟨⟨⟨plugin', result⟩, outputs, ctx₁⟩, hrun, hrest⟩ := hhooks
    refine ⟨_, habove.run hrun, ?_⟩
    cases result with
    | error cause => exact hrest
    | ok => exact habove.runHooks hrest

end Extends

/-- Nothing that an engine comes to is lost when its operations may nest one level deeper. -/
theorem extends_engine (depth : Nat) :
    (engine depth : Engine η ω).Extends (engine (depth + 1)) := by
  induction depth with
  | zero =>
    refine ⟨?_, ?_⟩
    · intro text ctx ended hrender
      cases hrender
    · intro ctx ended hhooks
      cases hhooks
  | succ depth ih =>
    refine ⟨?_, ?_⟩
    · intro text ctx ended hrender
      have hfinish : (engine depth).finish (.begin text) ctx = some ended := hrender
      exact ih.finish hfinish
    · intro ctx ended hhooks
      have hstep : (engine depth).runHooksStep ctx = some ended := hhooks
      exact ih.runHooksStep hstep

theorem extends_engine_of_le {depth depth' : Nat} (hle : depth ≤ depth') :
    (engine depth : Engine η ω).Extends (engine depth') := by
  induction hle with
  | refl => exact ⟨id, id⟩
  | step hle ih =>
    exact ⟨fun hrender => (extends_engine _).render (ih.render hrender),
      fun hhooks => (extends_engine _).runHooks (ih.runHooks hhooks)⟩

end Engine

namespace Context

variable {η ω α : Type} [Reads ω] [Offers η] [Handler η ω] {depth depth' : Nat}
  {script : Hook η ω α} {ctx : Context η ω} {ended ended' : α × Context η ω}

/-- More depth than is enough for code of the host changes nothing. -/
theorem run_of_le (hle : depth ≤ depth') (hrun : ctx.run depth script = some ended) :
    ctx.run depth' script = some ended := by
  obtain ⟨reached, hreached, rfl⟩ := Option.map_eq_some_iff.mp hrun
  rw [run, (Engine.extends_engine_of_le hle).run hreached]
  rfl

/-- Whatever depth is enough for code of the host, it comes to the same end. -/
theorem run_unique (hrun : ctx.run depth script = some ended)
    (hrun' : ctx.run depth' script = some ended') : ended = ended' := by
  have hdeep := run_of_le (Nat.le_max_left depth depth') hrun
  have hdeep' := run_of_le (Nat.le_max_right depth depth') hrun'
  exact Option.some.inj (hdeep.symm.trans hdeep')

end Context

end Stencil
