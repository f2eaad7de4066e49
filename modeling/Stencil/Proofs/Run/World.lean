import Mathlib.Logic.Relation
import Stencil.Proofs.Plugin.Changes
import Stencil.Proofs.Run.Progress

namespace Stencil

variable {η ω : Type} [Reads ω] [Offers η] [Handler η ω]

/-- What may become of a world by reading files and by the changes that stand in the code of
plugins. -/
def Handler.Evolves (η : Type) [Offers η] [Handler η ω] : ω → ω → Prop :=
  Relation.ReflTransGen fun world world' =>
    (∃ path, world' = (Reads.read path world).2) ∨
      ∃ change, Handler.Changes η change ∧ world' = change world

theorem Handler.evolves_read (path : Text) (world : ω) :
    Handler.Evolves η world (Reads.read path world).2 :=
  .single (.inl ⟨path, rfl⟩)

namespace Engine

/-- An engine whose operations change nothing in the world but what the code of plugins changes. -/
structure Evolves (below : Engine η ω) : Prop where
  render : ∀ {text : Text} {ctx ctx' : Context η ω} {result : Except RenderError Text},
    below.render text ctx = some (result, ctx') → Handler.Evolves η ctx.world ctx'.world
  runHooks : ∀ {ctx ctx' : Context η ω} {result : Except RenderError Unit},
    below.runHooks ctx = some (result, ctx') → Handler.Evolves η ctx.world ctx'.world

namespace Evolves

variable {below : Engine η ω} {ctx ctx' : Context η ω}

theorem settle (hbelow : below.Evolves) {result : Except RenderError Unit}
    (hsettle : below.settle ctx = some (result, ctx')) :
    Handler.Evolves η ctx.world ctx'.world := by
  have hhooks := hbelow.runHooks hsettle
  exact hhooks

theorem load (hbelow : below.Evolves) {name : Text} {result : Except RenderError Unit}
    (hload : below.load name ctx = some (result, ctx')) :
    Handler.Evolves η ctx.world ctx'.world := by
  rw [Engine.load] at hload
  cases hactivate : ctx.catalog.activate? name with
  | some catalog =>
    rw [hactivate] at hload
    have hsettled := hbelow.settle hload
    exact hsettled
  | none =>
    by_cases hcontains : ctx.registry.contains name
    · simp only [hactivate, if_pos hcontains] at hload
      exact hbelow.settle hload
    · simp only [hactivate, if_neg hcontains] at hload
      cases hload
      exact .refl

/-- Code whose changes stand in that of plugins takes the world where plugins may take it. -/
theorem run {ε α : Type} (hbelow : below.Evolves) {script : Script ε η ω α}
    (hscript : ∀ change, script.Changes change → Handler.Changes η change) {a : α}
    {outputs : List ε} (hrun : below.run script ctx = some (a, outputs, ctx')) :
    Handler.Evolves η ctx.world ctx'.world := by
  induction script generalizing ctx outputs with
  | done value =>
    cases hrun
    exact .refl
  | emit output next ih =>
    rw [Engine.run, Option.map_eq_some_iff] at hrun
    obtain ⟨⟨value, outputs, ctx₁⟩, hnext, heq⟩ := hrun
    cases heq
    exact ih hscript hnext
  | render text next ih =>
    rw [Engine.run, Option.bind_eq_some_iff] at hrun
    obtain ⟨⟨result, ctx₁⟩, hrender, hnext⟩ := hrun
    exact (hbelow.render hrender).trans (ih result (fun _ h => hscript _ ⟨result, h⟩) hnext)
  | load name next ih =>
    rw [Engine.run, Option.bind_eq_some_iff] at hrun
    obtain ⟨⟨result, ctx₁⟩, hload, hnext⟩ := hrun
    exact (hbelow.load hload).trans (ih result (fun _ h => hscript _ ⟨result, h⟩) hnext)
  | register name plugin next ih =>
    rw [Engine.run, Option.bind_eq_some_iff] at hrun
    obtain ⟨⟨result, ctx₁⟩, hregister, hnext⟩ := hrun
    rw [Engine.register, Option.bind_eq_some_iff] at hregister
    obtain ⟨⟨settled, ctx₂⟩, hsettle, heq⟩ := hregister
    cases heq
    have hsettled := hbelow.settle hsettle
    exact hsettled.trans (ih _ (fun _ h => hscript _ ⟨_, h⟩) hnext)
  | settle next ih =>
    rw [Engine.run, Option.bind_eq_some_iff] at hrun
    obtain ⟨⟨result, ctx₁⟩, hsettle, hnext⟩ := hrun
    exact (hbelow.settle hsettle).trans (ih result (fun _ h => hscript _ ⟨result, h⟩) hnext)
  | setBase dir next ih =>
    have hrest : below.run next { ctx with baseDir := dir } = some (a, outputs, ctx') := hrun
    have hevolves := ih hscript hrest
    exact hevolves
  | read path next ih =>
    have hrest := ih _ (fun _ h => hscript _ ⟨_, h⟩) hrun
    exact (Handler.evolves_read path ctx.world).trans hrest
  | observe next ih => exact ih _ (fun _ h => hscript _ ⟨_, h⟩) hrun
  | update change next ih =>
    have hchange : Handler.Evolves η ctx.world (change ctx.world) :=
      .single (.inr ⟨change, hscript change (.inl rfl), rfl⟩)
    exact hchange.trans (ih (fun _ h => hscript _ (.inr h)) hrun)

theorem answer {directive : Directive} {result : Except RenderError Resolution}
    (hanswer : directive.answer ctx = (result, ctx')) : Handler.Evolves η ctx.world ctx'.world := by
  have hctx : ctx' = (directive.answer ctx).2 := by rw [hanswer]
  rw [hctx, Directive.answer]
  cases directive.target with
  | bare name => exact .refl
  | call name method params =>
    simp only
    split
    · exact .refl
    split
    · cases params.get "file" with
      | none => exact .refl
      | some file => exact Handler.evolves_read _ ctx.world
    · exact .refl

theorem finish (hbelow : below.Evolves) {progress : Rendering} {result : Except RenderError Text}
    (hfinish : below.finish progress ctx = some (result, ctx')) :
    Handler.Evolves η ctx.world ctx'.world := by
  induction hrest : progress.rest generalizing progress ctx with
  | nil =>
    rw [finish_of_rest_eq_nil _ ctx hrest] at hfinish
    cases hfinish
    exact .refl
  | cons directive rest ih =>
    rw [finish_of_rest_eq_cons _ hrest] at hfinish
    have hanswered := fun resolution => Rendering.rest_answer hrest resolution
    cases hcall : directive.call? ctx with
    | some call =>
      simp only [hcall, Option.bind_eq_some_iff] at hfinish
      obtain ⟨⟨⟨plugin, answered⟩, outputs, ctx₁⟩, hrun, hfinish⟩ := hfinish
      have hcommand := hbelow.run (fun _ h => ⟨call.plugin, .inl ⟨_, _, h⟩⟩) hrun
      have hafter := ih hfinish (hanswered _)
      exact hcommand.trans hafter
    | none =>
      rcases hanswer : directive.answer ctx with ⟨cause | resolution, ctx₁⟩
      · simp only [hcall, hanswer] at hfinish
        cases hfinish
        exact answer hanswer
      · simp only [hcall, hanswer] at hfinish
        exact (answer hanswer).trans (ih hfinish (hanswered _))

theorem runHooksStep (hbelow : below.Evolves) {result : Except RenderError Unit}
    (hhooks : below.runHooksStep ctx = some (result, ctx')) :
    Handler.Evolves η ctx.world ctx'.world := by
  rw [Engine.runHooksStep] at hhooks
  cases hnext : ctx.registry.nextUninitialized? with
  | none =>
    rw [hnext] at hhooks
    cases hhooks
    exact .refl
  | some waiting =>
    obtain ⟨name, plugin⟩ := waiting
    simp only [hnext, Option.bind_eq_some_iff] at hhooks
    obtain ⟨⟨⟨plugin', ended⟩, outputs, ctx₁⟩, hrun, hrest⟩ := hhooks
    have hhook := hbelow.run (fun _ h => ⟨plugin, .inr h⟩) hrun
    cases ended with
    | error cause =>
      cases hrest
      exact hhook
    | ok =>
      have hafter := hbelow.runHooks hrest
      exact hhook.trans hafter

end Evolves

/-- However operations are nested, they change nothing in the world but what the code of plugins
changes. -/
theorem evolves_engine (depth : Nat) : (engine depth : Engine η ω).Evolves := by
  induction depth with
  | zero =>
    refine ⟨?_, ?_⟩
    · intro text ctx ctx' result hrender
      cases hrender
    · intro ctx ctx' result hhooks
      cases hhooks
  | succ depth ih =>
    refine ⟨?_, ?_⟩
    · intro text ctx ctx' result hrender
      have hfinish : (engine depth).finish (.begin text) ctx = some (result, ctx') := hrender
      exact ih.finish hfinish
    · intro ctx ctx' result hhooks
      have hstep : (engine depth).runHooksStep ctx = some (result, ctx') := hhooks
      exact ih.runHooksStep hstep

end Engine

end Stencil
