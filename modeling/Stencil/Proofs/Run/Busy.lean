import Stencil.Files.Shelf
import Stencil.Plugin.Scripted
import Stencil.Proofs.Run.Agreement
import Stencil.Proofs.Run.Change

namespace Stencil

namespace Registry

variable {η : Type}

theorem mem_busyNames (registry : Registry η) (n : Text) :
    n ∈ registry.busyNames ↔ registry.isBusy n := by
  rw [busyNames, List.mem_map]
  constructor
  · rintro ⟨handle, hmem, rfl⟩
    obtain ⟨hmem, hbusy⟩ := List.mem_filter.mp hmem
    rw [isBusy, lookup_of_mem hmem]
    exact hbusy
  · intro hbusy
    obtain ⟨handle, hlookup⟩ := exists_lookup (contains_of_isBusy hbusy)
    rw [isBusy, hlookup] at hbusy
    exact ⟨handle, List.mem_filter.mpr ⟨mem_of_lookup hlookup, hbusy⟩, name_of_lookup hlookup⟩

end Registry

/-- The plugins that are busy are those that were busy at first and those whose code is under way;
of these, none was busy at first or is under way twice. -/
structure Balanced {η : Type} (base : Registry η) (s : Snapshot η) : Prop where
  running : s.running.Nodup
  apart : ∀ n ∈ s.running, base.isBusy n = false
  busy : ∀ n, s.registry.isBusy n ↔ n ∈ s.running ∨ base.isBusy n

namespace Balanced

variable {η : Type} {base : Registry η} {s s' : Snapshot η} {event : Option Event}

/-- A plugin that is not busy may be taken out. -/
theorem of_start {job : Job} {registry : Registry η} {catalog : Catalog η} {discovering : Bool}
    (hbalanced : Balanced base s) (hfree : s.registry.isBusy job.plugin = false)
    (hbusy : ∀ n, registry.isBusy n ↔ n = job.plugin ∨ s.registry.isBusy n) :
    Balanced base ⟨discovering, job :: s.jobs, registry, catalog⟩ := by
  have hnot : ¬ (job.plugin ∈ s.running ∨ base.isBusy job.plugin) := by
    rw [← hbalanced.busy, hfree]
    decide
  constructor
  · exact List.nodup_cons.mpr ⟨fun hmem => hnot (.inl hmem), hbalanced.running⟩
  · intro n hmem
    rcases List.mem_cons.mp hmem with rfl | hmem
    · exact Bool.eq_false_iff.mpr fun hbase => hnot (.inr hbase)
    · exact hbalanced.apart n hmem
  · intro n
    rw [hbusy, hbalanced.busy, ← or_assoc]
    exact or_congr_left List.mem_cons.symm

/-- Every change keeps the balance. -/
theorem of_change (hchange : Change s event s') (hbalanced : Balanced base s) :
    Balanced base s' := by
  cases hchange with
  | stay hcode => exact hbalanced
  | @discover s registry catalog hcode hrequest =>
    obtain ⟨added, hgrown⟩ := hrequest.grown
    exact {
      running := hbalanced.running
      apart := hbalanced.apart
      busy := fun n => by
        rw [hgrown.isBusy]
        exact hbalanced.busy n }
  | settle hdiscovery hnext =>
    exact ⟨hbalanced.running, hbalanced.apart, hbalanced.busy⟩
  | startHook hdiscovery hnext =>
    obtain ⟨hcontains, hfree, -⟩ := Registry.of_nextUninitialized? hnext
    exact hbalanced.of_start hfree (Registry.isBusy_beginHook hcontains)
  | startCommand hcode hlend =>
    exact hbalanced.of_start (Registry.not_isBusy_of_lend? hlend) (Registry.isBusy_lend hlend)
  | @finish job jobs registry catalog plugin discovering =>
    -- the plugin is under way once only, so it is free when it is put back
    obtain ⟨hfresh, hrunning⟩ := List.nodup_cons.mp hbalanced.running
    have hbase := hbalanced.apart job.plugin List.mem_cons_self
    constructor
    · exact hrunning
    · exact fun n hmem => hbalanced.apart n (List.mem_cons_of_mem _ hmem)
    · intro n
      have hbusy := hbalanced.busy n
      simp only [Snapshot.running, List.map_cons, List.mem_cons] at hbusy hfresh ⊢
      rw [Registry.isBusy_restore, hbusy]
      constructor
      · rintro ⟨hne, (heq | hmem) | hbusy⟩
        · exact absurd heq hne
        · exact .inl hmem
        · exact .inr hbusy
      · rintro (hmem | hbusy)
        · exact ⟨fun heq => hfresh (heq ▸ hmem), .inl (.inr hmem)⟩
        · refine ⟨?_, .inr hbusy⟩
          rintro rfl
          rw [hbase] at hbusy
          cases hbusy

end Balanced

/-- Two contexts in which the same plugins are running. -/
def Context.SameBusy {η ω : Type} (ctx ctx' : Context η ω) : Prop :=
  ∀ name, name ∈ ctx'.registry.busyNames ↔ name ∈ ctx.registry.busyNames

/-- A context in which no plugin is running. -/
def Context.Idle {η ω : Type} (ctx : Context η ω) : Prop :=
  ctx.registry.busyNames = []

theorem Context.Idle.isBusy_eq_false {η ω : Type} {ctx : Context η ω} (hidle : ctx.Idle)
    {handle : Handle η} (hmem : handle ∈ ctx.registry.handles) : handle.isBusy = false := by
  have hnone := hidle
  rw [Context.Idle, Registry.busyNames, List.map_eq_nil_iff, List.filter_eq_nil_iff] at hnone
  simpa using hnone handle hmem

/-- A directive for a plugin that is running starts nothing: it is answered by the refusal, and
the context stays as it is. -/
theorem Directive.answer_of_isBusy {η ω : Type} [Reads ω] [Offers η] {directive : Directive}
    {ctx : Context η ω} {plugin method : Text} {params : ParamSet}
    (htarget : directive.target = .call plugin method params)
    (hbusy : ctx.registry.isBusy plugin) :
    directive.call? ctx = none ∧
      directive.answer ctx =
        (.ok (.replace ("plugin '".toList ++ plugin ++ "' is busy".toList)), ctx) := by
  have hlend := Registry.lend?_eq_none_of_isBusy hbusy
  constructor
  · rw [call?, htarget]
    simp only [hlend]
  · rw [answer, htarget]
    simp only [hlend, if_pos (Registry.contains_of_isBusy hbusy)]
    rfl

open Moment

variable {η ω α : Type}

theorem balanced_start (script : Hook η ω α) (ctx : Context η ω) :
    Balanced ctx.registry (start script ctx).snapshot where
  running := List.nodup_nil
  apart := fun _ hmem => absurd hmem List.not_mem_nil
  busy := fun n => by simp [snapshot, start, Snapshot.running, jobs, Stack.jobs, Moment.ctx]

variable [Reads ω] [Offers η] [Handler η ω]

/-- A run that begins with host code in a context keeps the balance with that context. -/
theorem balanced_of_after {script : Hook η ω α} {ctx : Context η ω} {n : Nat} {past : List Event}
    {m : Moment η ω α}
    (hrun : (start script ctx).after n = some (past, m)) : Balanced ctx.registry m.snapshot :=
  holds_of_after (fun s _ => Balanced ctx.registry s) (balanced_start script ctx)
    (fun hchange hbalanced => hbalanced.of_change hchange) hrun

namespace Context

variable {ctx ctx' : Context η ω} {depth : Nat}

/-- Host code that has ended leaves the same plugins running. -/
theorem sameBusy_of_run {script : Hook η ω α} {a : α}
    (hrun : ctx.run depth script = some (a, ctx')) : ctx.SameBusy ctx' := by
  obtain ⟨n, past, hafter⟩ := run_eq_some_iff_leads.mp ⟨depth, hrun⟩
  have hbalanced := balanced_of_after hafter
  intro name
  rw [Registry.mem_busyNames, Registry.mem_busyNames]
  simpa [snapshot, ended, Snapshot.running, jobs, Stack.jobs, Moment.ctx] using hbalanced.busy name

/-- Whatever the host does, no plugin is left running. -/
theorem Idle.run {script : Hook η ω α} {a : α} (hidle : ctx.Idle)
    (hrun : ctx.run depth script = some (a, ctx')) : ctx'.Idle := by
  refine List.eq_nil_iff_forall_not_mem.mpr fun name hmem => ?_
  have hbefore := (sameBusy_of_run hrun name).mp hmem
  rw [hidle] at hbefore
  cases hbefore

theorem run_render_done (depth : Nat) (text : Text) (ctx : Context η ω) :
    ctx.run depth (.render text .done) = ctx.render depth text := by
  rw [run, Engine.run, render]
  cases (engine depth).render text ctx <;> rfl

theorem run_load_done (depth : Nat) (name : Text) (ctx : Context η ω) :
    ctx.run depth (.load name .done) = ctx.load depth name := by
  rw [run, Engine.run, load]
  cases (engine depth).load name ctx <;> rfl

theorem run_register_done (depth : Nat) (name : Text) (plugin : η) (ctx : Context η ω) :
    ctx.run depth (.register name plugin .done) = ctx.register depth name plugin := by
  rw [run, Engine.run, register]
  cases (engine depth).register name plugin ctx <;> rfl

theorem run_settle_done (depth : Nat) (ctx : Context η ω) :
    ctx.run depth (.settle .done) = ctx.settle depth := by
  rw [run, Engine.run, settle]
  cases (engine depth).settle ctx <;> rfl

theorem run_render {text : Text} {result : Except RenderError Text}
    (hrender : ctx.render depth text = some (result, ctx')) :
    ctx.run depth (.render text .done) = some (result, ctx') :=
  (run_render_done depth text ctx).trans hrender

theorem run_load {name : Text} {result : Except RenderError Unit}
    (hload : ctx.load depth name = some (result, ctx')) :
    ctx.run depth (.load name .done) = some (result, ctx') :=
  (run_load_done depth name ctx).trans hload

theorem run_register {name : Text} {plugin : η} {result : Except RenderError Bool}
    (hregister : ctx.register depth name plugin = some (result, ctx')) :
    ctx.run depth (.register name plugin .done) = some (result, ctx') :=
  (run_register_done depth name plugin ctx).trans hregister

theorem run_settle {result : Except RenderError Unit}
    (hsettle : ctx.settle depth = some (result, ctx')) :
    ctx.run depth (.settle .done) = some (result, ctx') :=
  (run_settle_done depth ctx).trans hsettle

end Context

/-- At every moment of a run, the places that are empty are those of the plugins whose hooks and
commands are under way, each of them once; a directive that reaches such a plugin is replaced by
the refusal and starts nothing; and whatever is done from here, in one operation or in many, with
or without success, ends with the same places empty: none, when it is the host that does it. The
end of the run is what the engine comes to. -/
theorem busyNames_iff_running (rootPath baseDir : Text) (catalog : Catalog η) (world : ω)
    (script : Hook η ω α) {n : Nat} {past : List Event} {m : Moment η ω α}
    (hrun : (start script (.new rootPath baseDir catalog world)).after n = some (past, m)) :
    (m.ctx.registry.names.Nodup ∧ m.running.Nodup ∧
      (∀ name, name ∈ m.ctx.registry.busyNames ↔ name ∈ m.running) ∧
      (m.jobs = [] → m.ctx.registry.busyNames = [])) ∧
    (∀ (directive : Directive) (plugin method : Text) (params : ParamSet),
      directive.target = .call plugin method params → plugin ∈ m.running →
      let refusal := Resolution.replace ("plugin '".toList ++ plugin ++ "' is busy".toList)
      (∀ below : Engine η ω, below.dispatch directive m.ctx = some (.ok refusal, m.ctx)) ∧
      ∀ {role : Role} (stack : Stack η ω α role) (next : Except RenderError Text → Code η ω α role)
        (progress : Rendering) (rest : List Directive),
        m = rendering stack next progress m.ctx → progress.rest = directive :: rest →
        m.step = some (none, rendering stack next (progress.answer refusal) m.ctx)) ∧
    (∀ (depth : Nat) (ctx' : Context η ω),
      (∀ text result, m.ctx.render depth text = some (result, ctx') → m.ctx.SameBusy ctx') ∧
      (∀ name result, m.ctx.load depth name = some (result, ctx') → m.ctx.SameBusy ctx') ∧
      (∀ name plugin result, m.ctx.register depth name plugin = some (result, ctx') →
        m.ctx.SameBusy ctx') ∧
      (∀ result, m.ctx.settle depth = some (result, ctx') → m.ctx.SameBusy ctx') ∧
      ∀ {β : Type} (operations : Hook η ω β) (b : β),
        m.ctx.run depth operations = some (b, ctx') → m.ctx.SameBusy ctx') ∧
    (∀ (a : α) (ctx' : Context η ω),
      (∃ depth, (Context.new rootPath baseDir catalog world).run depth script = some (a, ctx')) ↔
        (start script (.new rootPath baseDir catalog world)).Leads (ended a ctx')) := by
  have hbalanced := balanced_of_after hrun
  have hbusy : ∀ name, m.ctx.registry.isBusy name ↔ name ∈ m.running := by
    intro name
    refine (hbalanced.busy name).trans ⟨?_, .inl⟩
    rintro (hmem | hbase)
    · exact hmem
    · cases hbase
  have hmem : ∀ name, name ∈ m.ctx.registry.busyNames ↔ name ∈ m.running := fun name =>
    (Registry.mem_busyNames m.ctx.registry name).trans (hbusy name)
  refine ⟨⟨m.ctx.registry.nodup_names, hbalanced.running, hmem, ?_⟩, ?_, ?_,
    fun a ctx' => Context.run_eq_some_iff_leads⟩
  · intro hjobs
    refine List.eq_nil_iff_forall_not_mem.mpr fun name hname => ?_
    rw [hmem, running, hjobs] at hname
    cases hname
  · intro directive plugin method params htarget hplugin
    obtain ⟨hcall, hanswer⟩ := Directive.answer_of_isBusy htarget ((hbusy plugin).mpr hplugin)
    refine ⟨fun below => ?_, ?_⟩
    · rw [Engine.dispatch_eq, hcall]
      exact congrArg some hanswer
    · intro role stack next progress rest hm hrest
      rw [hm]
      exact step_rendering_of_ok hrest hcall hanswer
  · intro depth ctx'
    have hsame : ∀ {β : Type} (operations : Hook η ω β) (b : β),
        m.ctx.run depth operations = some (b, ctx') → m.ctx.SameBusy ctx' :=
      fun _ _ hoperations => Context.sameBusy_of_run hoperations
    exact ⟨fun _ _ hrender => hsame _ _ (Context.run_render hrender),
      fun _ _ hload => hsame _ _ (Context.run_load hload),
      fun _ _ _ hregister => hsame _ _ (Context.run_register hregister),
      fun _ hsettle => hsame _ _ (Context.run_settle hsettle), hsame⟩

/-- The hook of a plugin renders a directive for the plugin itself: it is the one that is busy, and
the directive is refused. -/
theorem busyNames_iff_running_self_reference :
    let text : Text := ['{', '{', 'A', '.', 'x', '}', '}']
    let guest : Guest := .bound ⟨['A'], ⟨[(['x'], .value)]⟩, .new [⟨.render text, true⟩]⟩
    let script : Hook Guest (Noted Shelf) (Except RenderError Bool) := .register ['A'] guest .done
    ∃ past m,
      (start script (.new Context.defaultRoot Context.defaultBase [] ⟨⟨[]⟩, []⟩)).after 4 =
        some (past, m) ∧
      m.running = [['A']] ∧ (∀ name, name ∈ m.ctx.registry.busyNames ↔ name ∈ [['A']]) ∧
      ∀ directive ∈ Directive.scan text, ∀ depth,
        (engine depth).dispatch directive m.ctx =
          some (.ok (.replace ("plugin '".toList ++ ['A'] ++ "' is busy".toList)), m.ctx) := by
  intro text guest script
  have hreach : ((start script (.new Context.defaultRoot Context.defaultBase []
      ⟨⟨[]⟩, []⟩)).after 4).map (fun reached => reached.2.running) = some [['A']] := by rfl
  obtain ⟨⟨past, m⟩, hrun, hrunning⟩ := Option.map_eq_some_iff.mp hreach
  obtain ⟨⟨-, -, hbusy, -⟩, hdirective, -⟩ := busyNames_iff_running _ _ _ _ script hrun
  have hscan : Directive.scan text = [⟨text, ['A', '.', 'x'], .call ['A'] ['x'] []⟩] := by rfl
  refine ⟨past, m, hrun, hrunning, fun name => by rw [hbusy, hrunning], ?_⟩
  intro directive hmem depth
  rw [hscan, List.mem_singleton] at hmem
  rw [hmem]
  exact (hdirective _ ['A'] ['x'] [] rfl (by rw [hrunning]; exact List.mem_cons_self)).1 _

end Stencil
