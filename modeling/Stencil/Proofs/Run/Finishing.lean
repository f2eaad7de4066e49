import Stencil.Proofs.Plugin.Bounded
import Stencil.Proofs.Registry.Weight
import Stencil.Proofs.Run.Lasting

namespace Stencil

open Moment

section Fixed

variable {η ω α : Type}

/-- The weight of all hooks that have not been started, those of the plugins on offer included. -/
def Context.outstanding (weight : η → Nat) (ctx : Context η ω) : Nat :=
  ctx.registry.outstanding weight ctx.catalog

theorem Context.outstanding_instantiate_le (weight : η → Nat) (ctx : Context η ω) :
    ctx.instantiate.outstanding weight ≤ ctx.outstanding weight :=
  Registry.outstanding_withActive ctx.registry ctx.catalog

/-- A plugin that is put back after its hook was started adds nothing. -/
theorem Context.outstanding_restore_le {weight : η → Nat} {ctx : Context η ω} {name : Text}
    (hstarted : ctx.registry.isStarted name) (plugin : η) :
    (ctx.restore name plugin).outstanding weight ≤ ctx.outstanding weight := by
  have hrestored : (ctx.restore name plugin).outstanding weight ≤ ctx.outstanding weight +
      if ctx.registry.isStarted name then 0 else weight plugin :=
    Registry.outstanding_restore ctx.registry name plugin
  rwa [if_pos hstarted] at hrestored

/-- Whether something holds of all contexts in which no more than a bound is outstanding. -/
def UpTo (weight : η → Nat) (bound : Nat) (holds : Context η ω → Prop) : Prop :=
  ∀ ctx : Context η ω, ctx.outstanding weight ≤ bound → holds ctx

theorem UpTo.mono {weight : η → Nat} {bound bound' : Nat} {holds : Context η ω → Prop}
    (hupTo : UpTo weight bound' holds) (hle : bound ≤ bound') : UpTo weight bound holds :=
  fun ctx hbound => hupTo ctx (hbound.trans hle)

variable [Reads ω] [Offers η] [Handler η ω]

/-- Whether an operation comes to the code that waits for its answer, with no more than a bound
outstanding. -/
def Moment.Answers (weight : η → Nat) (bound : Nat) {role : Role} {β : Type}
    (stack : Stack η ω α role) (next : β → Code η ω α role) (m : Moment η ω α) : Prop :=
  ∃ result ctx', m.Leads (code stack (next result) ctx') ∧ ctx'.outstanding weight ≤ bound

/-- Whether code comes to its end, with no more than a bound outstanding. -/
def Moment.Finishes (weight : η → Nat) (bound : Nat) {role : Role} (stack : Stack η ω α role)
    (ends : role.Ending η α → Prop) (m : Moment η ω α) : Prop :=
  ∃ (a : role.Ending η α) (outputs : List role.Output) (ctx' : Context η ω),
    m.Leads (code (outputs.foldl Stack.emit stack) (.done a) ctx') ∧ ends a ∧
      ctx'.outstanding weight ≤ bound

section Compose

variable {weight : η → Nat} {bound bound' : Nat} {role : Role} {β : Type}
  {stack : Stack η ω α role} {next : β → Code η ω α role} {ends : role.Ending η α → Prop}
  {m m' : Moment η ω α}

theorem Moment.Answers.step {event : Option Event} (hstep : m.step = some (event, m'))
    (hanswers : m'.Answers weight bound stack next) (hle : bound ≤ bound') :
    m.Answers weight bound' stack next := by
  obtain ⟨result, ctx', hleads, hbound⟩ := hanswers
  exact ⟨result, ctx', .step hstep hleads, hbound.trans hle⟩

theorem Moment.Finishes.step {event : Option Event} (hstep : m.step = some (event, m'))
    (hfinishes : m'.Finishes weight bound stack ends) : m.Finishes weight bound stack ends := by
  obtain ⟨a, outputs, ctx', hleads, hend⟩ := hfinishes
  exact ⟨a, outputs, ctx', .step hstep hleads, hend⟩

/-- Code that starts an operation finishes when the operation is answered and the rest of the code
finishes, whatever the answer. -/
theorem Moment.Answers.finishes (hanswers : m.Answers weight bound stack next)
    (hnext : ∀ result (ctx' : Context η ω), ctx'.outstanding weight ≤ bound →
      (code stack (next result) ctx').Finishes weight bound' stack ends) :
    m.Finishes weight bound' stack ends := by
  obtain ⟨result, ctx₁, hleads, hbound⟩ := hanswers
  obtain ⟨a, outputs, ctx', hrest, hend⟩ := hnext result ctx₁ hbound
  exact ⟨a, outputs, ctx', hleads.trans hrest, hend⟩

end Compose

end Fixed

section Operations

variable {η ω : Type} (weight : η → Nat) (α : Type) [Reads ω] [Offers η] [Handler η ω]

/-- Whether a discovery ends in a context, whatever waits for it. -/
def Context.DiscoveryEnds (ctx : Context η ω) : Prop :=
  ∀ {role : Role} (stack : Stack η ω α role) (next : Except RenderError Unit → Code η ω α role),
    (discovery stack next ctx).Answers weight (ctx.outstanding weight) stack next

/-- Whether the render of a text ends in a context, whatever waits for it. -/
def Context.RenderEnds (text : Text) (ctx : Context η ω) : Prop :=
  ∀ {role : Role} (stack : Stack η ω α role) (next : Except RenderError Text → Code η ω α role),
    (rendering stack next (.begin text) ctx).Answers weight (ctx.outstanding weight) stack next

/-- Whether every operation ends in a context. -/
def Context.OperationsEnd (ctx : Context η ω) : Prop :=
  ctx.DiscoveryEnds weight α ∧ ∀ text, ctx.RenderEnds weight α text

end Operations

section Code

variable {η ω α : Type} {weight : η → Nat} [Reads ω] [Offers η] [Handler η ω] {bound : Nat}
  {role : Role} (stack : Stack η ω α role) {ctx : Context η ω}

section Discovery

variable (hdiscovery : UpTo weight bound fun ctx : Context η ω => ctx.DiscoveryEnds weight α)
  {next : Except RenderError Unit → Code η ω α role}

include hdiscovery

/-- A step at which discovery begins comes to an answer. -/
theorem answers_of_discovery {m : Moment η ω α} {ctx' : Context η ω}
    (hstep : m.step = some (none, discovery stack next ctx'))
    (hbound : ctx'.outstanding weight ≤ bound) : m.Answers weight bound stack next :=
  (hdiscovery ctx' hbound stack next).step hstep hbound

theorem load_answers (hbound : ctx.outstanding weight ≤ bound) (name : Text) :
    (code stack (.load name next) ctx).Answers weight (ctx.outstanding weight) stack next := by
  cases hactivate : ctx.catalog.activate? name with
  | some catalog =>
    have hsame : ({ ctx with catalog } : Context η ω).outstanding weight = ctx.outstanding weight :=
      congrArg (_ + ·) (Catalog.unregistered_activate? weight hactivate)
    refine answers_of_discovery stack (hdiscovery.mono hbound) (step_load_of_activate hactivate)
      ?_
    exact (Context.outstanding_instantiate_le weight _).trans hsame.le
  | none =>
    by_cases hcontains : ctx.registry.contains name
    · exact answers_of_discovery stack (hdiscovery.mono hbound)
        (step_load_of_registered hactivate hcontains)
        (Context.outstanding_instantiate_le weight ctx)
    · exact ⟨_, ctx, .step (step_load_of_unknown hactivate hcontains) (.refl _), le_rfl⟩

theorem settle_answers (hbound : ctx.outstanding weight ≤ bound) :
    (code stack (.settle next) ctx).Answers weight (ctx.outstanding weight) stack next := by
  have hstep : (code stack (.settle next) ctx).step =
    some (none, discovery stack next ctx.instantiate) := rfl
  exact answers_of_discovery stack (hdiscovery.mono hbound) hstep
    (Context.outstanding_instantiate_le weight ctx)

omit next in
theorem register_answers {name : Text} {plugin : η}
    {next : Except RenderError Bool → Code η ω α role}
    (hbound : ctx.outstanding weight + weight plugin ≤ bound) :
    (code stack (.register name plugin next) ctx).Answers weight
      (ctx.outstanding weight + weight plugin) stack next := by
  have hregistered : ({ ctx with
      registry := (ctx.registry.register? name plugin).getD ctx.registry } :
        Context η ω).outstanding weight ≤ ctx.outstanding weight + weight plugin := by
    cases hregister : ctx.registry.register? name plugin with
    | some registry => exact Registry.outstanding_register? hregister
    | none => exact Nat.le_add_right _ _
  have hstep : (code stack (.register name plugin next) ctx).step =
    some (none, discovery stack
      (fun result => next (result.map fun _ => (ctx.registry.register? name plugin).isSome))
      { ctx with
        registry := (ctx.registry.register? name plugin).getD ctx.registry }.instantiate) := rfl
  obtain ⟨result, ctx', hleads, hbound'⟩ := answers_of_discovery stack (hdiscovery.mono hbound)
    hstep ((Context.outstanding_instantiate_le weight _).trans hregistered)
  exact ⟨_, ctx', hleads, hbound'⟩

end Discovery

/-- Code that starts nothing comes to its end, and no plugin has been touched. -/
theorem code_ends_of_none {script : Code η ω α role} {ends : role.Ending η α → Prop} {budget : Nat}
    (hwithin : script.Within weight .none ends budget) :
    ∃ (a : role.Ending η α) (outputs : List role.Output) (ctx' : Context η ω),
      (code stack script ctx).Leads (code (outputs.foldl Stack.emit stack) (.done a) ctx') ∧
        ctx'.registry = ctx.registry ∧ ctx'.catalog = ctx.catalog := by
  induction script generalizing stack ctx budget with
  | done a => exact ⟨a, [], ctx, .refl _, rfl, rfl⟩
  | emit output next ih =>
    obtain ⟨a, outputs, ctx', hleads, hkept⟩ := ih (stack.emit output) hwithin
    exact ⟨a, output :: outputs, ctx', .step rfl hleads, hkept⟩
  | render text next ih => exact hwithin.1.elim
  | load name next ih => exact hwithin.1.elim
  | register name plugin next ih => exact hwithin.1.elim
  | settle next ih => exact hwithin.1.elim
  | setBase dir next ih =>
    obtain ⟨a, outputs, ctx', hleads, hkept⟩ := ih stack hwithin
    exact ⟨a, outputs, ctx', .step rfl hleads, hkept⟩
  | read path next ih =>
    obtain ⟨a, outputs, ctx', hleads, hkept⟩ := ih _ stack (hwithin _)
    exact ⟨a, outputs, ctx', .step rfl hleads, hkept⟩
  | observe next ih =>
    obtain ⟨a, outputs, ctx', hleads, hkept⟩ := ih _ stack (hwithin ctx.view)
    exact ⟨a, outputs, ctx', .step rfl hleads, hkept⟩
  | update change next ih =>
    obtain ⟨a, outputs, ctx', hleads, hkept⟩ := ih stack hwithin
    exact ⟨a, outputs, ctx', .step rfl hleads, hkept⟩

/-- Code comes to its end when all that it may start does, as long as the bound has room for what
it may register. -/
theorem code_finishes {limits : Limits}
    (hrender : ∀ text, limits.renders text →
      UpTo weight bound fun ctx : Context η ω => ctx.RenderEnds weight α text)
    (hdiscovery : limits.discovers →
      UpTo weight bound fun ctx : Context η ω => ctx.DiscoveryEnds weight α)
    {script : Code η ω α role} {ends : role.Ending η α → Prop} {budget : Nat}
    (hwithin : script.Within weight limits ends budget)
    (hbound : ctx.outstanding weight + budget ≤ bound) :
    (code stack script ctx).Finishes weight bound stack ends := by
  induction script generalizing stack ctx budget with
  | done a => exact ⟨a, [], ctx, .refl _, hwithin, by omega⟩
  | emit output next ih =>
    obtain ⟨a, outputs, ctx', hleads, hend⟩ := ih (stack.emit output) hwithin hbound
    exact ⟨a, output :: outputs, ctx', .step rfl hleads, hend⟩
  | render text next ih =>
    have hanswers := hrender text hwithin.1 ctx (by omega) stack next
    refine (hanswers.step rfl le_rfl).finishes fun result ctx' hbound' => ?_
    exact ih result stack (hwithin.2 result) (by omega)
  | load name next ih =>
    have hanswers : (code stack (.load name next) ctx).Answers weight _ stack next :=
      load_answers stack (hdiscovery hwithin.1) (by omega) name
    refine hanswers.finishes fun result ctx' hbound' => ?_
    exact ih result stack (hwithin.2 result) (by omega)
  | register name plugin next ih =>
    obtain ⟨hdiscovers, hweight, hnext⟩ := hwithin
    have hanswers : (code stack (.register name plugin next) ctx).Answers weight _ stack next :=
      register_answers stack (hdiscovery hdiscovers) (by omega)
    refine hanswers.finishes fun result ctx' hbound' => ?_
    exact ih result stack (hnext result) (by omega)
  | settle next ih =>
    have hanswers : (code stack (.settle next) ctx).Answers weight _ stack next :=
      settle_answers stack (hdiscovery hwithin.1) (by omega)
    refine hanswers.finishes fun result ctx' hbound' => ?_
    exact ih result stack (hwithin.2 result) (by omega)
  | setBase dir next ih => exact .step rfl (ih stack hwithin hbound)
  | read path next ih => exact .step rfl (ih _ stack (hwithin _) hbound)
  | observe next ih => exact .step rfl (ih _ stack (hwithin ctx.view) hbound)
  | update change next ih => exact .step rfl (ih stack hwithin hbound)

end Code

end Stencil
