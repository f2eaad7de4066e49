import Stencil.Files.Disk
import Stencil.Proofs.Run.Change
import Stencil.Proofs.Run.Progress

namespace Stencil

variable {η ω : Type} [HasDisk ω]

/-- To answer a directive changes nothing, where reading a file does not. -/
theorem Directive.answer_of_disk (directive : Directive) (ctx : Context η ω) :
    (directive.answer ctx).2 = ctx := by
  rw [answer]
  cases directive.target with
  | bare name => rfl
  | call name method params =>
    simp only
    split
    · rfl
    split
    · cases params.get "file" with
      | none => rfl
      | some file => rfl
    · rfl

variable [Offers η] [Handler η ω]

/-- Whether the commands of a plugin come to an end and change nothing. -/
def Still (ω : Type) [HasDisk ω] [Handler η ω] (plugin : η) : Prop :=
  ∀ (below : Engine η ω) (method : Text) (params : Option ParamSet) (ctx : Context η ω),
    ∃ result outputs, below.run (Handler.invoke plugin method params) ctx =
      some ((plugin, result), outputs, ctx)

/-- Whether the plugins that are in their places change nothing. -/
def Registry.Still (ω : Type) [HasDisk ω] [Handler η ω] (registry : Registry η) : Prop :=
  ∀ handle ∈ registry.handles, ∀ plugin, handle.plugin = some plugin → Stencil.Still ω plugin

namespace Engine

variable {ctx : Context η ω}

theorem dispatch_of_still (hstill : ctx.registry.Still ω) (below : Engine η ω)
    (directive : Directive) : ∃ result, below.dispatch directive ctx = some (result, ctx) := by
  rw [dispatch_eq]
  cases hcall : directive.call? ctx with
  | none =>
    refine ⟨(directive.answer ctx).1, congrArg some ?_⟩
    exact Prod.ext rfl (directive.answer_of_disk ctx)
  | some call =>
    have hlend := Directive.lend?_of_call? hcall
    obtain ⟨handle, hlookup, hplugin, -⟩ := Registry.lend?_eq_some_iff.mp hlend
    obtain ⟨result, outputs, hrun⟩ := hstill handle (Registry.mem_of_lookup hlookup) _ hplugin below
      call.method call.params { ctx with registry := call.registry }
    refine ⟨.ok (closeCall call.name ((call.plugin, result), outputs, ctx)).1, ?_⟩
    simp only [hrun, Option.map_some, closeCall, Context.restore, Registry.restore_lend hlend]

theorem dispatchAll_of_still (hstill : ctx.registry.Still ω) (below : Engine η ω)
    (directives : List Directive) :
    ∃ result, below.dispatchAll directives ctx = some (result, ctx) := by
  induction directives with
  | nil => exact ⟨_, rfl⟩
  | cons directive rest ih =>
    obtain ⟨results, hrest⟩ := ih
    obtain ⟨result, hdispatch⟩ := dispatch_of_still hstill below directive
    rw [dispatchAll, hdispatch]
    cases result with
    | error cause => exact ⟨.error cause, rfl⟩
    | ok resolution =>
      refine ⟨results.map ((directive, resolution) :: ·), ?_⟩
      simp only [Option.bind_some, hrest, Option.map_some]

end Engine

/-- A render over plugins that change nothing comes to an end and changes nothing. -/
theorem Context.render_of_still {ctx : Context η ω} (hstill : ctx.registry.Still ω) (depth : Nat)
    (text : Text) : ∃ result, ctx.render (depth + 1) text = some (result, ctx) := by
  obtain ⟨result, hall⟩ :=
    Engine.dispatchAll_of_still hstill (engine depth) (Directive.scan text)
  refine ⟨result.map fun resolved =>
    Render.stripEditable ((Engine.replacements resolved).apply text), ?_⟩
  change (engine depth).renderStep text ctx = _
  rw [Engine.renderStep, hall]
  rfl

end Stencil
