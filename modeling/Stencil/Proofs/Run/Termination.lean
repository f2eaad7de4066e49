import Stencil.Proofs.Run.Finishing

namespace Stencil

open Moment

/-- What a command may render is shorter than the text in which its directive stands. -/
theorem Directive.length_lt_of_call? {η ω : Type} [Offers η] {directive : Directive}
    {ctx : Context η ω} {call : Call η} (hcall : directive.call? ctx = some call) {t value : Text}
    (hscan : directive ∈ scan t) (hgives : ParamSet.Gives call.params value) :
    value.length < t.length := by
  rw [call?] at hcall
  split at hcall
  · cases hcall
  · next name method params htarget =>
    split at hcall
    · cases hcall
    · split at hcall
      · cases hcall
        obtain ⟨given, key, hparams, hmem⟩ := hgives
        simp only at hparams
        split at hparams
        · cases hparams
        · cases hparams
          exact length_lt_of_mem_scan hscan htarget hmem
      · cases hcall

section Bounded

variable {η ω α : Type} {weight : η → Nat} [Reads ω] [Offers η] [Handler η ω] {bound : Nat}

/-- Discovery is answered when the code of the next hook comes to its end and, once the plugin is
back, discovery ends. -/
theorem answers_of_hook {role : Role} {stack : Stack η ω α role}
    {next : Except RenderError Unit → Code η ω α role} {ctx ctx' : Context η ω} {name : Text}
    {plugin : η} (hnext : ctx.registry.nextUninitialized? = some (name, plugin))
    {ended : η × Except RenderError Unit}
    (hleads : (code (.hook name stack next) (Handler.loaded plugin)
      { ctx with registry := ctx.registry.beginHook name }).Leads
        (code (.hook name stack next) (.done ended) ctx'))
    (hbound : (ctx'.restore name ended.1).outstanding weight ≤ bound)
    (hrest : (ctx'.restore name ended.1).DiscoveryEnds weight α) :
    (discovery stack next ctx).Answers weight bound stack next := by
  obtain ⟨plugin', result⟩ := ended
  have hhook := Leads.step (step_discovery_of_some hnext) hleads
  cases result with
  | error cause => exact ⟨.error cause, _, hhook.snoc rfl, hbound⟩
  | ok =>
    obtain ⟨result, ctx'', hend, hbound'⟩ := hrest stack next
    exact ⟨result, ctx'', (hhook.snoc rfl).trans hend, hbound'.trans hbound⟩

variable (hbounded : Handler.Bounded ω weight)

include hbounded

/-- The hook that is next comes to its end, if all operations end where less is outstanding. Then
less is outstanding, or nothing was started. -/
theorem hook_ends {ctx : Context η ω} {name : Text} {plugin : η}
    (hbelow : ∀ less < ctx.outstanding weight,
      UpTo weight less fun ctx : Context η ω => ctx.OperationsEnd weight α)
    (hnext : ctx.registry.nextUninitialized? = some (name, plugin))
    {role : Role} (stack : Stack η ω α role) (next : Except RenderError Unit → Code η ω α role) :
    ∃ ended ctx', (code (.hook name stack next) (Handler.loaded plugin)
        { ctx with registry := ctx.registry.beginHook name }).Leads
          (code (.hook name stack next) (.done ended) ctx') ∧
      (ctx'.outstanding weight < ctx.outstanding weight ∨
        ctx'.registry = ctx.registry.beginHook name ∧
          ctx'.outstanding weight ≤ ctx.outstanding weight) := by
  let begun : Context η ω := { ctx with registry := ctx.registry.beginHook name }
  have hbegun : begun.outstanding weight + weight plugin = ctx.outstanding weight :=
    Registry.outstanding_beginHook hnext
  by_cases hweight : weight plugin = 0
  · obtain ⟨ended, outputs, ctx', hleads, hregistry, hcatalog⟩ :=
      code_ends_of_none (.hook name stack next) (hbounded.idle plugin hweight)
    rw [Stack.foldl_emit_hook] at hleads
    refine ⟨ended, ctx', hleads, .inr ⟨hregistry, ?_⟩⟩
    rw [Context.outstanding, hregistry, hcatalog]
    exact Nat.le.intro hbegun
  · have hhook := hbounded.hook plugin (Nat.pos_of_ne_zero hweight)
    have hless := hbelow (begun.outstanding weight + (weight plugin - 1)) (by omega)
    obtain ⟨ended, outputs, ctx', hleads, -, hbound⟩ :=
      code_finishes (.hook name stack next)
        (fun text _ ctx hbound => (hless ctx hbound).2 text)
        (fun _ ctx hbound => (hless ctx hbound).1) hhook le_rfl
    rw [Stack.foldl_emit_hook] at hleads
    exact ⟨ended, ctx', hleads, .inl (by omega)⟩

/-- Discovery ends. A hook leaves less outstanding, or as much and fewer hooks to be started. -/
theorem discovery_ends
    (hbelow : ∀ less < bound,
      UpTo weight less fun ctx : Context η ω => ctx.OperationsEnd weight α) :
    UpTo weight bound fun ctx : Context η ω => ctx.DiscoveryEnds weight α := by
  intro ctx hbound
  induction hcount : ctx.registry.total Handle.unstarted using Nat.strong_induction_on
    generalizing ctx with
  | _ count ih =>
    intro role stack next
    cases hnext : ctx.registry.nextUninitialized? with
    | none => exact ⟨.ok (), ctx, .step (step_discovery_of_none hnext) (.refl _), le_rfl⟩
    | some waiting =>
      obtain ⟨name, plugin⟩ := waiting
      have hstarted : (ctx.registry.beginHook name).isStarted name :=
        (Registry.isStarted_beginHook (Registry.of_nextUninitialized? hnext).1 name).mpr
          (.inl rfl)
      obtain ⟨ended, ctx', hleads, hend⟩ := hook_ends hbounded
        (fun less hless => hbelow less (hless.trans_le hbound)) hnext stack next
      have hrestored : (ctx'.restore name ended.1).outstanding weight ≤ ctx'.outstanding weight :=
        Context.outstanding_restore_le (hleads.lasting.started name hstarted) ended.1
      rcases hend with hless | ⟨hregistry, hle⟩
      -- the rest of the discovery is below the bound, or one hook fewer waits
      · refine answers_of_hook hnext hleads (by omega) ?_
        exact (hbelow _ (hless.trans_le hbound) _ hrestored).1
      · have hfewer : (ctx'.restore name ended.1).registry.total Handle.unstarted < count := by
          have hunstarted := Registry.unstarted_beginHook hnext
          rw [Context.restore, Registry.unstarted_restore, hregistry]
          omega
        refine answers_of_hook hnext hleads (by omega) ?_
        exact ih _ hfewer _ (by omega) rfl

/-- The command that a directive starts comes to its end, if discovery ends and so does the render
of what its parameters give. With its plugin back in its place, no more is outstanding than
before. -/
theorem command_ends {ctx : Context η ω} {directive : Directive} {call : Call η}
    (hcall : directive.call? ctx = some call)
    (hrender : ∀ text, ParamSet.Gives call.params text →
      UpTo weight (ctx.outstanding weight) fun ctx : Context η ω =>
        ctx.RenderEnds weight α text)
    (hdiscovery : UpTo weight (ctx.outstanding weight) fun ctx : Context η ω =>
      ctx.DiscoveryEnds weight α)
    {role : Role} (stack : Stack η ω α role)
    (next : Except RenderError Text → Code η ω α role) (progress : Rendering) :
    ∃ ended outputs ctx', (code (.command call.name call.method [] progress stack next)
        (Handler.invoke call.plugin call.method call.params)
        { ctx with registry := call.registry }).Leads
          (code (.command call.name call.method outputs progress stack next) (.done ended) ctx') ∧
      (ctx'.restore call.name ended.1).outstanding weight ≤ ctx.outstanding weight := by
  have hlend := Directive.lend?_of_call? hcall
  let lent : Context η ω := { ctx with registry := call.registry }
  have hlent : lent.outstanding weight +
      (if ctx.registry.isStarted call.name then 0 else weight call.plugin) =
        ctx.outstanding weight :=
    Registry.outstanding_lend? hlend
  have hle : lent.outstanding weight ≤ ctx.outstanding weight := Nat.le.intro hlent
  obtain ⟨ended, outputs, ctx', hleads, hweight, hbound⟩ :=
    code_finishes (.command call.name call.method [] progress stack next)
      (fun text hgives => (hrender text hgives).mono hle) (fun _ => hdiscovery.mono hle)
      (hbounded.command call.plugin call.method call.params) le_rfl
  rw [Stack.foldl_emit_command] at hleads
  refine ⟨ended, outputs, ctx', hleads, ?_⟩
  have hrestored : (ctx'.restore call.name ended.1).outstanding weight ≤ ctx'.outstanding weight +
      if ctx'.registry.isStarted call.name then 0 else weight ended.1 :=
    Registry.outstanding_restore ctx'.registry call.name ended.1
  -- a plugin whose hook has not been started waits again once it is back, and is no heavier
  by_cases hstarted : ctx.registry.isStarted call.name
  · have hstartedLent : lent.registry.isStarted call.name := by
      rwa [Registry.isStarted_lend hlend]
    have hstarted' : ctx'.registry.isStarted call.name :=
      hleads.lasting.started _ hstartedLent
    rw [if_pos hstarted'] at hrestored
    omega
  · rw [if_neg hstarted] at hlent
    have hat : (if ctx'.registry.isStarted call.name then 0 else weight ended.1) ≤
        weight call.plugin := by
      split
      · exact Nat.zero_le _
      · exact hweight
    omega

section Rendering

variable {text : Text}
  (hdiscovery : UpTo weight bound fun ctx : Context η ω => ctx.DiscoveryEnds weight α)
  (hshorter : ∀ value : Text, value.length < text.length →
    UpTo weight bound fun ctx : Context η ω => ctx.RenderEnds weight α value)

include hdiscovery hshorter

/-- The directive that is next is answered: by an error, which ends the render, or by a
resolution. -/
theorem directive_ends {progress : Rendering} {directive : Directive} {rest : List Directive}
    (hrest : progress.rest = directive :: rest) (hscan : directive ∈ Directive.scan text)
    {ctx : Context η ω} (hbound : ctx.outstanding weight ≤ bound) {role : Role}
    (stack : Stack η ω α role) (next : Except RenderError Text → Code η ω α role) :
    ∃ ctx' : Context η ω, ctx'.outstanding weight ≤ ctx.outstanding weight ∧
      ((∃ cause, (rendering stack next progress ctx).Leads
          (code stack (next (.error cause)) ctx')) ∨
        ∃ resolution, (rendering stack next progress ctx).Leads
          (rendering stack next (progress.answer resolution) ctx')) := by
  cases hcall : directive.call? ctx with
  | none =>
    obtain ⟨hregistry, hcatalog⟩ := directive.answer_keeps ctx
    obtain ⟨result, ctx', hanswer⟩ :
        ∃ result ctx', directive.answer ctx = (result, ctx') := ⟨_, _, rfl⟩
    rw [hanswer] at hregistry hcatalog
    have hle : ctx'.outstanding weight ≤ ctx.outstanding weight := by
      rw [Context.outstanding, hregistry, hcatalog]
      exact le_rfl
    refine ⟨ctx', hle, ?_⟩
    cases result with
    | error cause =>
      exact .inl ⟨cause, .step (step_rendering_of_error hrest hcall hanswer) (.refl _)⟩
    | ok resolution =>
      exact .inr ⟨resolution, .step (step_rendering_of_ok hrest hcall hanswer) (.refl _)⟩
  | some call =>
    have hrender : ∀ value, ParamSet.Gives call.params value →
        UpTo weight (ctx.outstanding weight) fun ctx : Context η ω =>
          ctx.RenderEnds weight α value :=
      fun value hgives =>
        (hshorter value (Directive.length_lt_of_call? hcall hscan hgives)).mono hbound
    obtain ⟨ended, outputs, ctx', hleads, hle⟩ :=
      command_ends hbounded hcall hrender (hdiscovery.mono hbound) stack next progress
    have hcommand := Leads.step (step_rendering_of_call hrest hcall) hleads
    exact ⟨ctx'.restore call.name ended.1, hle, .inr ⟨_, hcommand.snoc rfl⟩⟩

theorem rendering_answers {progress : Rendering} {directives : List Directive}
    (hrest : progress.rest = directives)
    (hscan : ∀ directive ∈ directives, directive ∈ Directive.scan text)
    {ctx : Context η ω} (hbound : ctx.outstanding weight ≤ bound) {role : Role}
    (stack : Stack η ω α role) (next : Except RenderError Text → Code η ω α role) :
    (rendering stack next progress ctx).Answers weight (ctx.outstanding weight) stack next := by
  induction directives generalizing progress ctx with
  | nil => exact ⟨_, ctx, .step (step_rendering_of_nil hrest) (.refl _), le_rfl⟩
  | cons directive rest ih =>
    obtain ⟨hdirective, hscanRest⟩ := List.forall_mem_cons.mp hscan
    obtain ⟨ctx₁, hle, ⟨cause, hleads⟩ | ⟨resolution, hleads⟩⟩ :=
      directive_ends hbounded hdiscovery hshorter hrest hdirective hbound stack next
    · exact ⟨_, ctx₁, hleads, hle⟩
    · have hrest₁ : (progress.answer resolution).rest = rest :=
        Rendering.rest_answer hrest resolution
      obtain ⟨result, ctx', hanswer, hle'⟩ := ih hrest₁ hscanRest (hle.trans hbound)
      exact ⟨result, ctx', hleads.trans hanswer, hle'.trans hle⟩

end Rendering

/-- Every render ends. What a command may render is shorter than the text in which it is called. -/
theorem render_ends
    (hdiscovery : UpTo weight bound fun ctx : Context η ω => ctx.DiscoveryEnds weight α)
    (text : Text) : UpTo weight bound fun ctx : Context η ω => ctx.RenderEnds weight α text := by
  induction hlength : text.length using Nat.strong_induction_on generalizing text with
  | _ length ih =>
    have hshorter : ∀ value : Text, value.length < text.length →
        UpTo weight bound fun ctx : Context η ω => ctx.RenderEnds weight α value :=
      fun value hvalue => ih _ (hlength ▸ hvalue) value rfl
    intro ctx hbound role stack next
    exact rendering_answers hbounded hdiscovery hshorter rfl (fun _ => id) hbound stack next

/-- Every operation ends, by induction on what is outstanding. Below that, a discovery counts the
hooks that have not been started, and a render the length of its text. -/
theorem operations_end_upTo (bound : Nat) :
    UpTo weight bound fun ctx : Context η ω => ctx.OperationsEnd weight α := by
  induction bound using Nat.strong_induction_on with
  | _ bound ih =>
    have hdiscovery := discovery_ends hbounded ih
    intro ctx hbound
    exact ⟨hdiscovery ctx hbound, fun text => render_ends hbounded hdiscovery text ctx hbound⟩

end Bounded

/-- Whether an operation ends. Any depth from some depth on is enough for it, and it comes to the
same then. -/
def Terminates {η ω β : Type} (operation : Nat → Option (β × Context η ω)) : Prop :=
  ∃ depth result ctx', ∀ deeper, depth ≤ deeper → operation deeper = some (result, ctx')

/-- Code of the host ends when it registers plugins of a bounded weight altogether. -/
theorem run_terminates {η ω α : Type} {weight : η → Nat} [Reads ω] [Offers η] [Handler η ω]
    (hbounded : Handler.Bounded ω weight) (ctx : Context η ω)
    {script : Hook η ω α} {budget : Nat}
    (hwithin : script.Within weight .all (fun _ => True) budget) :
    Terminates fun depth => ctx.run depth script := by
  have hend : UpTo weight (ctx.outstanding weight + budget) fun ctx : Context η ω =>
      ctx.OperationsEnd weight α := operations_end_upTo hbounded _
  obtain ⟨a, outputs, ctx', hleads, -, -⟩ :=
    code_finishes (.host : Stack η ω α .host)
      (fun text _ ctx hbound => (hend ctx hbound).2 text)
      (fun _ ctx hbound => (hend ctx hbound).1) hwithin le_rfl
  rw [Stack.foldl_emit_host] at hleads
  obtain ⟨depth, hrun⟩ := Context.run_eq_some_iff_leads.mpr hleads
  exact ⟨depth, a, ctx', fun deeper hle => Context.run_of_le hle hrun⟩

/-- Every operation of a context ends, whatever the hooks of its plugins load, register and render,
themselves and one another included, and however texts are nested in the parameters of calls. For
this the code of plugins has to be bounded by weights, as that of plugins written as data is by the
number of their actions. -/
theorem operations_terminate :
    (∀ (ω : Type) [Journal ω], Handler.Bounded ω Guest.weight) ∧
    ∀ {η ω : Type} [Reads ω] [Offers η] [Handler η ω] {weight : η → Nat},
      Handler.Bounded ω weight → ∀ ctx : Context η ω,
        (∀ text, Terminates fun depth => ctx.render depth text) ∧
        (∀ name, Terminates fun depth => ctx.load depth name) ∧
        (∀ name plugin, Terminates fun depth => ctx.register depth name plugin) ∧
        Terminates fun depth => ctx.settle depth := by
  refine ⟨fun ω _ => Guest.bounded, fun {η ω} _ _ _ weight hbounded ctx => ?_⟩
  refine ⟨fun text => ?_, fun name => ?_, fun name plugin => ?_, ?_⟩
  · have hwithin : (Script.render text .done : Hook η ω _).Within weight .all (fun _ => True) 0 :=
      ⟨trivial, fun _ => trivial⟩
    simpa only [Context.run_render_done] using run_terminates hbounded ctx hwithin
  · have hwithin : (Script.load name .done : Hook η ω _).Within weight .all (fun _ => True) 0 :=
      ⟨trivial, fun _ => trivial⟩
    simpa only [Context.run_load_done] using run_terminates hbounded ctx hwithin
  · have hwithin : (Script.register name plugin .done : Hook η ω _).Within weight .all
        (fun _ => True) (weight plugin) := ⟨trivial, le_rfl, fun _ => trivial⟩
    simpa only [Context.run_register_done] using run_terminates hbounded ctx hwithin
  · have hwithin : (Script.settle .done : Hook η ω _).Within weight .all (fun _ => True) 0 :=
      ⟨trivial, fun _ => trivial⟩
    simpa only [Context.run_settle_done] using run_terminates hbounded ctx hwithin

/-- Two plugins whose hooks load each other and themselves. The hook of the first goes on to
register a third plugin and to render a text in which a command of the second renders a text of its
own. -/
theorem operations_terminate_in_cycle :
    let text : Text :=
      "\x7b\x7bB.render(text=&#123;&#123;C.value(text=x)&#125;&#125;)\x7d\x7d"
    let first : Guest := .bound (Guest.new ['A'] Behaviour.table
      [⟨.load ['A'], false⟩, ⟨.load ['B'], false⟩, ⟨.register ['C'] (.plain ['C']), false⟩,
        ⟨.render text, false⟩])
    let second : Guest := .bound (Guest.new ['B'] Behaviour.table
      [⟨.load ['A'], false⟩, ⟨.settle, false⟩, ⟨.load ['B'], false⟩])
    let ctx : Context Guest (Noted Shelf) := .new Context.defaultRoot Context.defaultBase
      (.offering [(['A'], first), (['B'], second)]) ⟨⟨[]⟩, []⟩
    Handler.Bounded (Noted Shelf) Guest.weight ∧
      ∃ depth ctx', (∀ deeper, depth ≤ deeper → ctx.load deeper ['A'] = some (.ok (), ctx')) ∧
        ctx'.registry.names = [['A'], ['B'], ['C']] := by
  intro text first second ctx
  refine ⟨Guest.bounded, ?_⟩
  obtain ⟨-, hload, -, -⟩ := operations_terminate.2 Guest.bounded ctx
  obtain ⟨depth, result, ctx', hend⟩ := hload ['A']
  have hsix : (ctx.load 6 ['A']).map (fun ended => (ended.1.toBool, ended.2.registry.names)) =
      some (true, [['A'], ['B'], ['C']]) := by decide +kernel
  obtain ⟨reached, hreached, heq⟩ := Option.map_eq_some_iff.mp hsix
  obtain rfl : (result, ctx') = reached :=
    Context.run_unique ((Context.run_load_done depth ['A'] ctx).trans (hend depth le_rfl))
      ((Context.run_load_done 6 ['A'] ctx).trans hreached)
  obtain ⟨hok, hregistered⟩ := Prod.mk.inj heq
  cases result with
  | error cause => cases hok
  | ok => exact ⟨depth, ctx', hend, hregistered⟩

end Stencil
