import Stencil.Proofs.Catalog.Activation
import Stencil.Proofs.Catalog.Walk
import Stencil.Proofs.Plugin.Requests
import Stencil.Proofs.Run.Lasting
import Stencil.Proofs.Run.Making

namespace Stencil

namespace LoadGraph

/-- What a catalog has on offer, by what the hook of each plugin asks for. -/
def ofCatalog {η : Type} (requests : η → List Text) (catalog : Catalog η) : LoadGraph :=
  fun name => (catalog.get? name).map requests

/-- How the load ends whose walk ended early at a name, or did not. -/
def answer : Option Text → Except RenderError Unit
  | none => .ok ()
  | some missing => .error (.unknownPlugin missing)

theorem answer_eq_ok_iff {missing? : Option Text} : answer missing? = .ok () ↔ missing? = none := by
  cases missing? with
  | none => exact ⟨fun _ => rfl, fun _ => rfl⟩
  | some missing => exact ⟨nofun, nofun⟩

end LoadGraph

namespace Registry

variable {η : Type} {registry registry' : Registry η} {name : Text} {fresh : η}

theorem initialized_restore (hstarted : ∀ handle ∈ registry.handles, handle.initialized)
    (name : Text) (plugin : η) :
    ∀ handle ∈ (registry.restore name plugin).handles, handle.initialized := by
  intro handle hmem
  rw [restore, handles_modify, List.mem_map] at hmem
  obtain ⟨old, hold, rfl⟩ := hmem
  split <;> exact hstarted old hold

/-- Behind plugins whose hooks have been started, the hook of a new one is next. -/
theorem nextUninitialized?_register? (hregister : registry.register? name fresh = some registry')
    (hstarted : ∀ handle ∈ registry.handles, handle.initialized) :
    registry'.nextUninitialized? = some (name, fresh) := by
  obtain ⟨-, hhandles⟩ := register?_eq_some_iff.mp hregister
  have hnone : (registry.handles.find? fun handle => !handle.initialized && handle.plugin.isSome) =
      none := by
    refine List.find?_eq_none.mpr fun handle hmem => ?_
    simp [hstarted handle hmem]
  rw [nextUninitialized?_eq, hhandles, List.find?_append, hnone]
  rfl

/-- The start of its hook leaves a new plugin behind the others, out of its place. -/
theorem handles_beginHook_register? (hregister : registry.register? name fresh = some registry') :
    (registry'.beginHook name).handles = registry.handles ++ [⟨name, none, true⟩] := by
  obtain ⟨hfree, hhandles⟩ := register?_eq_some_iff.mp hregister
  rw [Bool.eq_false_iff, ne_eq, contains_iff_mem_names, names, List.mem_map] at hfree
  have hothers : ∀ handle ∈ registry.handles, handle.name ≠ name := fun handle hmem hname =>
    hfree ⟨handle, hmem, hname⟩
  rw [beginHook, handles_modify, hhandles, List.map_append, List.map_singleton, if_pos rfl,
    List.map_congr_left fun handle hmem => if_neg (hothers handle hmem), List.map_id']

end Registry

namespace Context

variable {η ω : Type}

/-- A context in which just the given names have been loaded, in that order, and all their hooks
have been started. -/
structure Loaded (catalog : Catalog η) (met : List Text) (ctx : Context η ω) : Prop where
  names : ctx.registry.names = met
  started : ∀ handle ∈ ctx.registry.handles, handle.initialized
  catalog : ctx.catalog = catalog.activated met

namespace Loaded

variable {catalog : Catalog η} {met : List Text} {ctx : Context η ω} {name : Text}

theorem contains_iff (hloaded : ctx.Loaded catalog met) (n : Text) :
    ctx.registry.contains n ↔ n ∈ met := by
  rw [Registry.contains_iff_mem_names, hloaded.names]

theorem settled (hloaded : ctx.Loaded catalog met) : ctx.Settled := by
  refine ⟨hloaded.started, fun entry hmem hactive => ?_⟩
  rw [hloaded.catalog] at hmem
  obtain ⟨old, -, rfl⟩ := List.mem_map.mp hmem
  rw [hloaded.contains_iff]
  exact of_decide_eq_true hactive

theorem restore (hloaded : ctx.Loaded catalog met) (name : Text) (plugin : η) :
    (ctx.restore name plugin).Loaded catalog met where
  names := (Registry.names_restore ..).trans hloaded.names
  started := Registry.initialized_restore hloaded.started name plugin
  catalog := hloaded.catalog

theorem world (hloaded : ctx.Loaded catalog met) (world : ω) :
    ({ ctx with world } : Context η ω).Loaded catalog met :=
  ⟨hloaded.names, hloaded.started, hloaded.catalog⟩

theorem pending_eq_nil (hloaded : ctx.Loaded catalog met) :
    ctx.catalog.pending ctx.registry = [] := by
  refine List.eq_nil_iff_forall_not_mem.mpr fun entry hmem => ?_
  obtain ⟨hentry, hactive, hfree⟩ := Catalog.mem_pending.mp hmem
  rw [hloaded.settled.2 entry hentry hactive] at hfree
  cases hfree

/-- The activation of a name that has been loaded changes nothing. -/
theorem eq_of_activate? (hloaded : ctx.Loaded catalog met) (hmet : name ∈ met)
    {catalog' : Catalog η} (hactivate : ctx.catalog.activate? name = some catalog') :
    catalog' = ctx.catalog := by
  refine Catalog.eq_of_activate?_of_isActive hactivate ?_
  rw [hloaded.catalog]
  exact catalog.isActive_activated hmet

/-- A new name on offer is the only one that is registered when it has been activated. -/
theorem instantiate_activated (hloaded : ctx.Loaded catalog met) (hnodup : catalog.names.Nodup)
    (hnew : name ∉ met) {fresh : η} (hget : catalog.get? name = some fresh) :
    ∃ registry, ctx.registry.register? name fresh = some registry ∧
      ({ ctx with catalog := catalog.activated (met ++ [name]) } : Context η ω).instantiate =
        { ctx with registry, catalog := catalog.activated (met ++ [name]) } := by
  have hfree : ctx.registry.contains name = false := by
    rw [Bool.eq_false_iff, ne_eq, hloaded.contains_iff]
    exact hnew
  have hpending := Catalog.pending_activated hnodup hloaded.names hnew hget
  cases hregister : ctx.registry.register? name fresh with
  | none =>
    rw [Registry.register?_eq_none_iff, hfree] at hregister
    cases hregister
  | some registry =>
    refine ⟨registry, rfl, ?_⟩
    rw [Context.instantiate]
    simp only [hpending, List.foldl_cons, List.foldl_nil, Registry.register, hregister,
      Option.getD_some]

/-- When the hook of a new name is started, the name has been loaded behind the others. -/
theorem beginHook (hloaded : ctx.Loaded catalog met) {fresh : η} {registry : Registry η}
    (hregister : ctx.registry.register? name fresh = some registry) :
    ({ ctx with
        registry := registry.beginHook name
        catalog := catalog.activated (met ++ [name]) } : Context η ω).Loaded catalog
      (met ++ [name]) := by
  refine ⟨?_, ?_, rfl⟩
  · rw [Registry.names_beginHook, Registry.names_register? hregister, hloaded.names]
  · intro handle hmem
    rw [Registry.handles_beginHook_register? hregister] at hmem
    rcases List.mem_append.mp hmem with hmem | hmem
    · exact hloaded.started handle hmem
    · rw [List.mem_singleton.mp hmem]

end Loaded

end Context

open Moment LoadGraph

variable {η ω α : Type} [Reads ω] [Offers η] [Handler η ω] {role : Role}

section Requests

variable (stack : Stack η ω α role) (ctx : Context η ω)
  {tells : role.Ending η α → Except RenderError Unit} {script : Code η ω α role}

/-- Code without requests comes to its end. -/
theorem Script.Requests.passes_of_nil (hscript : script.Requests tells []) :
    ∃ a world, tells a = .ok () ∧
      (code stack script ctx).Passes (code stack (.done a) { ctx with world }) [] := by
  generalize hnames : ([] : List Text) = names at hscript
  induction hscript generalizing ctx with
  | done hok => exact ⟨_, ctx.world, hok, .refl _⟩
  | load hnext hfails ih => cases hnames
  | update hnext ih =>
    obtain ⟨a, world, hok, hpasses⟩ := ih _ hnames
    exact ⟨a, world, hok, hpasses.step_of_makes_eq_nil rfl rfl⟩

/-- Code comes to its first request. -/
theorem Script.Requests.passes_of_cons {name : Text} {names : List Text}
    (hscript : script.Requests tells (name :: names)) :
    ∃ next world, Script.Requests tells names (next (.ok ())) ∧
      (∀ cause, ∃ a, next (.error cause) = .done a ∧ tells a = .error cause) ∧
      (code stack script ctx).Passes (code stack (.load name next) { ctx with world }) [] := by
  generalize hnames : name :: names = names' at hscript
  induction hscript generalizing ctx with
  | done hok => cases hnames
  | load hnext hfails ih =>
    cases hnames
    exact ⟨_, ctx.world, hnext, hfails, .refl _⟩
  | update hnext ih =>
    obtain ⟨next, world, hrest, hfails, hpasses⟩ := ih _ hnames
    exact ⟨next, world, hrest, hfails, hpasses.step_of_makes_eq_nil rfl rfl⟩

end Requests

section Load

variable (stack : Stack η ω α role) (next : Except RenderError Unit → Code η ω α role)
  {ctx : Context η ω} {catalog : Catalog η} {met : List Text} {name : Text}

/-- A name that has been loaded is passed by. -/
theorem passes_load_of_mem (hloaded : ctx.Loaded catalog met) (hmet : name ∈ met) :
    (code stack (.load name next) ctx).Passes (code stack (next (.ok ())) ctx) [] := by
  have hcontains := (hloaded.contains_iff name).mpr hmet
  have hsettled := hloaded.settled
  have hlook : (discovery stack next ctx).Passes (code stack (next (.ok ())) ctx) [] :=
    (Passes.refl _).step_of_makes_eq_nil (step_discovery_of_none hsettled.nextUninitialized?) rfl
  cases hactivate : ctx.catalog.activate? name with
  | some catalog' =>
    obtain rfl := hloaded.eq_of_activate? hmet hactivate
    have hstep : (code stack (.load name next) ctx).step =
        some (none, discovery stack next ctx) := by
      rw [step_load_of_activate hactivate]
      exact congrArg (fun ctx => some (none, discovery stack next ctx)) hsettled.instantiate
    refine hlook.step_of_makes_eq_nil hstep ?_
    simp only [makes, hactivate, hloaded.pending_eq_nil]
    rfl
  | none =>
    have hstep : (code stack (.load name next) ctx).step =
        some (none, discovery stack next ctx) := by
      rw [step_load_of_registered hactivate hcontains, hsettled.instantiate]
    refine hlook.step_of_makes_eq_nil hstep ?_
    simp only [makes, hactivate, if_pos hcontains, hloaded.pending_eq_nil]
    rfl

/-- A name that is neither on offer nor loaded is refused. -/
theorem passes_load_of_unknown (hloaded : ctx.Loaded catalog met) (hnew : name ∉ met)
    (hname : name ∉ catalog.names) :
    (code stack (.load name next) ctx).Passes
      (code stack (next (.error (.unknownPlugin name))) ctx) [] := by
  have hcontains : ¬ ctx.registry.contains name := hnew ∘ (hloaded.contains_iff name).mp
  have hactivate : ctx.catalog.activate? name = none := by
    apply Catalog.activate?_eq_none
    rw [hloaded.catalog, Catalog.names_activated]
    exact hname
  refine (Passes.refl _).step_of_makes_eq_nil (step_load_of_unknown hactivate hcontains) ?_
  simp only [makes, hactivate, if_neg hcontains]

/-- A new name on offer is registered, and its hook is started. -/
theorem passes_load_of_new (hnodup : catalog.names.Nodup) (hloaded : ctx.Loaded catalog met)
    (hnew : name ∉ met) {fresh : η} (hget : catalog.get? name = some fresh) :
    ∃ ctx' : Context η ω, ctx'.Loaded catalog (met ++ [name]) ∧
      (code stack (.load name next) ctx).Passes
        (code (.hook name stack next) (Handler.loaded fresh) ctx') [name] := by
  have hactivate : ctx.catalog.activate? name = some (catalog.activated (met ++ [name])) := by
    rw [hloaded.catalog]
    exact catalog.activate?_activated met (Catalog.mem_names_of_get? hget)
  obtain ⟨registry, hregister, hinstantiate⟩ :=
    hloaded.instantiate_activated hnodup hnew hget
  have hstep : (code stack (.load name next) ctx).step = _ := step_load_of_activate hactivate
  rw [hinstantiate] at hstep
  have hnext := Registry.nextUninitialized?_register? hregister hloaded.started
  have hlook : (discovery stack next
      { ctx with registry, catalog := catalog.activated (met ++ [name]) }).Passes _ [] :=
    (Passes.refl _).step_of_makes_eq_nil (step_discovery_of_some hnext) rfl
  refine ⟨_, hloaded.beginHook hregister, ?_⟩
  have hmakes : (code stack (.load name next) ctx).makes = [name] := by
    simp only [makes, hactivate, Catalog.pending_activated hnodup hloaded.names hnew hget]
    rfl
  have hpasses := hlook.step hstep
  rw [hmakes] at hpasses
  exact hpasses

/-- When the hook of a plugin has ended and every hook has been started, the load of the plugin ends
as the hook did. -/
theorem passes_end_of_hook (hloaded : ctx.Loaded catalog met) (name : Text) (plugin : η)
    (result : Except RenderError Unit) :
    (code (.hook name stack next) (.done (plugin, result)) ctx).Passes
      (code stack (next result) (ctx.restore name plugin)) [] := by
  cases result with
  | error cause => exact (Passes.refl _).step_of_makes_eq_nil rfl rfl
  | ok =>
    have hnext := (hloaded.restore name plugin).settled.nextUninitialized?
    exact ((Passes.refl _).step_of_makes_eq_nil (step_discovery_of_none hnext) rfl)
      |>.step_of_makes_eq_nil rfl rfl

end Load

/-- Code that asks for plugins comes to its end as a walk does, with the plugins of the walk loaded;
just those are made, in the order in which the walk meets them. -/
theorem passes_of_walk {catalog : Catalog η} (hnodup : catalog.names.Nodup)
    {requests : η → List Text}
    (hhooks : ∀ name plugin, catalog.get? name = some plugin →
      (Handler.loaded plugin : Hook η ω _).Requests Prod.snd (requests plugin))
    {met names met' : List Text} {missing? : Option Text}
    (hwalk : Walk (.ofCatalog requests catalog) met names met' missing?)
    (stack : Stack η ω α role) {tells : role.Ending η α → Except RenderError Unit}
    {script : Code η ω α role} (hscript : script.Requests tells names) {ctx : Context η ω}
    (hloaded : ctx.Loaded catalog met) :
    ∃ made a ctx', met' = met ++ made ∧ tells a = answer missing? ∧ ctx'.Loaded catalog met' ∧
      (code stack script ctx).Passes (code stack (.done a) ctx') made := by
  induction hwalk generalizing role ctx with
  | nil =>
    obtain ⟨a, world, hok, hpasses⟩ := hscript.passes_of_nil stack ctx
    exact ⟨[], a, _, (List.append_nil _).symm, hok, hloaded.world world, hpasses⟩
  | again hmet hrest ih =>
    obtain ⟨next, world, hnext, -, hrequest⟩ := hscript.passes_of_cons stack ctx
    obtain ⟨made, a, ctx', hmade, hend, hloaded', hpasses⟩ := ih stack hnext (hloaded.world world)
    have hload := passes_load_of_mem stack next (hloaded.world world) hmet
    exact ⟨made, a, ctx', hmade, hend, hloaded', hrequest.trans (hload.trans hpasses)⟩
  | @missing met rest name hnew hnone =>
    obtain ⟨next, world, -, hfails, hrequest⟩ := hscript.passes_of_cons stack ctx
    have hname : name ∉ catalog.names := by
      rw [ofCatalog, Option.map_eq_none_iff] at hnone
      exact Catalog.get?_eq_none_iff.mp hnone
    obtain ⟨a, hdone, hend⟩ := hfails (.unknownPlugin name)
    have hload := passes_load_of_unknown stack next (hloaded.world world) hnew hname
    rw [hdone] at hload
    exact ⟨[], a, _, (List.append_nil _).symm, hend, hloaded.world world, hrequest.trans hload⟩
  | @visit met met₁ met₂ asked rest name missing? hnew hsome hbelow hrest ihbelow ihrest =>
    obtain ⟨next, world, hnext, -, hrequest⟩ := hscript.passes_of_cons stack ctx
    obtain ⟨fresh, hget, rfl⟩ := Option.map_eq_some_iff.mp hsome
    obtain ⟨ctx₁, hloaded₁, hload⟩ :=
      passes_load_of_new stack next hnodup (hloaded.world world) hnew hget
    obtain ⟨below, ⟨plugin, result⟩, ctx₂, hmade₂, hend₂, hloaded₂, hhook⟩ :=
      ihbelow (.hook name stack next) (hhooks name fresh hget) hloaded₁
    obtain rfl : result = .ok () := hend₂
    have hend := passes_end_of_hook stack next hloaded₂ name plugin (.ok ())
    obtain ⟨made, a, ctx₃, hmade₃, htells, hloaded₃, hpasses⟩ :=
      ihrest stack hnext (hloaded₂.restore name plugin)
    refine ⟨name :: below ++ made, a, ctx₃, ?_, htells, hloaded₃, ?_⟩
    · rw [hmade₃, hmade₂]
      simp
    · have hall := hrequest.trans (hload.trans (hhook.trans (hend.trans hpasses)))
      simpa using hall
  | @fails met met₁ asked rest name missing hnew hsome hbelow ih =>
    obtain ⟨next, world, -, hfails, hrequest⟩ := hscript.passes_of_cons stack ctx
    obtain ⟨fresh, hget, rfl⟩ := Option.map_eq_some_iff.mp hsome
    obtain ⟨ctx₁, hloaded₁, hload⟩ :=
      passes_load_of_new stack next hnodup (hloaded.world world) hnew hget
    obtain ⟨below, ⟨plugin, result⟩, ctx₂, hmade₂, hend₂, hloaded₂, hhook⟩ :=
      ih (.hook name stack next) (hhooks name fresh hget) hloaded₁
    obtain rfl : result = .error (.unknownPlugin missing) := hend₂
    have hend :=
      passes_end_of_hook stack next hloaded₂ name plugin (.error (.unknownPlugin missing))
    obtain ⟨a, hdone, htells⟩ := hfails (.unknownPlugin missing)
    rw [hdone] at hend
    refine ⟨name :: below, a, _, ?_, htells, hloaded₂.restore name plugin, ?_⟩
    · rw [hmade₂]
      simp
    · have hall := hrequest.trans (hload.trans (hhook.trans hend))
      simpa using hall

section Later

variable {name : Text}

/-- A name that is registered and has been activated can be loaded again, and nothing changes. -/
theorem Context.Settled.load_of_isActive {ctx : Context η ω} (hsettled : ctx.Settled)
    (hcontains : ctx.registry.contains name) (hactive : ctx.catalog.IsActive name) (depth : Nat) :
    ctx.load (depth + 1) name = some (.ok (), ctx) := by
  rw [Context.load, Engine.load]
  cases hactivate : ctx.catalog.activate? name with
  | some catalog =>
    rw [Catalog.eq_of_activate?_of_isActive hactivate hactive]
    exact hsettled.settle depth
  | none =>
    simp only [if_pos hcontains]
    exact hsettled.settle depth

theorem Change.isActive {η : Type} {s s' : Snapshot η} {event : Option Event}
    (hchange : Change s event s') (hactive : s.catalog.IsActive name) :
    s'.catalog.IsActive name := by
  cases hchange with
  | stay hcode => exact hactive
  | discover hcode hrequest =>
    cases hrequest with
    | nothing => exact hactive
    | activate hactivate => exact Catalog.isActive_of_activate? hactivate hactive
    | register hregister => exact hactive
  | settle hdiscovery hnext => exact hactive
  | startHook hdiscovery hnext => exact hactive
  | startCommand hcode hlend => exact hactive
  | finish => exact hactive

/-- What has been loaded can be loaded again, whatever the host has done since. -/
theorem load_after_run {m : Moment η ω α} (hprepared : Prepared m.snapshot)
    (hcode : m.isDiscovery = false)
    (hcontains : m.ctx.registry.contains name) (hactive : m.ctx.catalog.IsActive name) {β : Type}
    {operations : Hook η ω β} {depth : Nat} {b : β} {later : Context η ω}
    (hrun : m.ctx.run depth operations = some (b, later)) (depth' : Nat) :
    later.load (depth' + 1) name = some (.ok (), later) := by
  have hsettled := hprepared.settled_of_run hcode hrun
  obtain ⟨n, past, hafter⟩ := Context.run_eq_some_iff_leads.mp ⟨depth, hrun⟩
  have hlasting : m.ctx.registry.Lasting later.registry := Leads.lasting ⟨n, past, hafter⟩
  have hstart : (start operations m.ctx).snapshot.catalog.IsActive name := hactive
  have hstill : later.catalog.IsActive name :=
    holds_of_after (fun s _ => s.catalog.IsActive name) hstart
      (fun hchange hactive => hchange.isActive hactive) hafter
  refine hsettled.load_of_isActive ?_ hstill depth'
  rw [Registry.contains_iff_mem_names] at hcontains ⊢
  exact hlasting.names.mem hcontains

end Later

theorem Context.load_of_unknown {ctx : Context η ω} {name : Text}
    (hcatalog : name ∉ ctx.catalog.names) (hregistry : name ∉ ctx.registry.names) (depth : Nat) :
    ctx.load depth name = some (.error (.unknownPlugin name), ctx) := by
  have hcontains : ¬ ctx.registry.contains name := by
    rw [Registry.contains_iff_mem_names]
    exact hregistry
  rw [Context.load, Engine.load, Catalog.activate?_eq_none hcatalog]
  exact if_neg hcontains

/-- Where nothing is registered yet, a load comes to its end as the walk from its name does. -/
theorem load_ends_of_walk (rootPath baseDir : Text) {plugins : List (Text × η)} (world : ω)
    {requests : η → List Text}
    (hhooks : ∀ name plugin, (name, plugin) ∈ plugins →
      (Handler.loaded plugin : Hook η ω _).Requests Prod.snd (requests plugin))
    {name : Text} {met : List Text} {missing? : Option Text}
    (hwalk : Walk (fun n => (plugins.lookup n).map requests) [] [name] met missing?) :
    let first := start (.load name .done) (.new rootPath baseDir (.offering plugins) world)
    ∃ ctx' : Context η ω, ctx'.Loaded (.offering plugins) met ∧ ∃ k past,
      first.after k = some (past, ended (answer missing?) ctx') ∧ first.made k = met := by
  intro first
  have hgraph : LoadGraph.ofCatalog requests (.offering plugins) =
      fun n => (plugins.lookup n).map requests := by
    funext n
    rw [LoadGraph.ofCatalog, Catalog.get?_offering]
  have hoffered : ∀ n plugin, (Catalog.offering plugins).get? n = some plugin →
      (Handler.loaded plugin : Hook η ω _).Requests Prod.snd (requests plugin) := by
    intro n plugin hget
    rw [Catalog.get?_offering] at hget
    obtain ⟨before, after, rfl, -⟩ := List.lookup_eq_some_iff.mp hget
    exact hhooks n plugin (by simp)
  have hrequests : (Script.load name .done : Hook η ω _).Requests id [name] :=
    .load (.done rfl) fun cause => ⟨.error cause, rfl, rfl⟩
  have hloaded : (Context.new rootPath baseDir (.offering plugins) world).Loaded
      (.offering plugins) [] :=
    ⟨rfl, nofun, (Catalog.activated_nil_offering plugins).symm⟩
  obtain ⟨made, result, ctx', hmade, hresult, hloaded', k, past, hafter, hcount⟩ :=
    passes_of_walk (Catalog.nodup_names_offering plugins) hoffered (hgraph ▸ hwalk)
      (.host : Stack η ω _ .host) hrequests hloaded
  rw [List.nil_append] at hmade
  obtain rfl : result = answer missing? := hresult
  exact ⟨ctx', hloaded', k, past, hafter, hmade ▸ hcount⟩

/-- Where nothing is registered yet and every hook is a row of load requests, a load is the
depth-first walk from its name through what the hooks ask for. It succeeds just when all that is
reached is on offer; the names that are registered then are those that are reached. Otherwise it
fails at the first name of the walk that is not on offer. Either way the names that the walk has met
are registered in the order of the walk, initialized and not running; each of their plugins was made
once, and its hook was run once. From then on all of them can be loaded without any change. -/
theorem load_follows_walk (rootPath baseDir : Text) (plugins : List (Text × η)) (world : ω)
    (requests : η → List Text)
    (hhooks : ∀ name plugin, (name, plugin) ∈ plugins →
      (Handler.loaded plugin : Hook η ω _).Requests Prod.snd (requests plugin)) (name : Text) :
    let graph : LoadGraph := fun n => (plugins.lookup n).map requests
    let ctx : Context η ω := .new rootPath baseDir (.offering plugins) world
    let first := start (.load name .done) ctx
    ∃ met missing? ctx',
      (∀ met' missing?', graph.Walk [] [name] met' missing?' ↔ met' = met ∧ missing?' = missing?) ∧
      ((∃ depth, ctx.load depth name = some (answer missing?, ctx')) ∧
        ∀ depth ended, ctx.load depth name = some ended → ended = (answer missing?, ctx')) ∧
      (answer missing? = .ok () ↔ ∀ n, graph.Reaches name n → n ∈ plugins.map Prod.fst) ∧
      (answer missing? = .ok () → ∀ n, n ∈ met ↔ graph.Reaches name n) ∧
      (∀ missing, missing? = some missing →
        graph.Reaches name missing ∧ missing ∉ plugins.map Prod.fst) ∧
      (ctx'.registry.names = met ∧ met.Nodup ∧
        ∀ handle ∈ ctx'.registry.handles, handle.initialized ∧ handle.isBusy = false) ∧
      (∃ k past, first.after k = some (past, ended (answer missing?) ctx') ∧ first.made k = met ∧
        ∀ n, past.count (.starts (.hook n)) = (if n ∈ met then 1 else 0) ∧
          (n ∈ met → .ends (.hook n) ∈ past)) ∧
      (∀ {β : Type} (operations : Hook η ω β) depth b later,
        ctx'.run depth operations = some (b, later) →
        ∀ n ∈ met, ∀ depth, later.load (depth + 1) n = some (.ok (), later)) ∧
      ∀ (other : Context η ω) n depth, n ∉ other.catalog.names → n ∉ other.registry.names →
        other.load depth n = some (.error (.unknownPlugin n), other) := by
  intro graph ctx first
  have hoffered : ∀ n, (graph n).isSome ↔ n ∈ plugins.map Prod.fst := by
    intro n
    simp [graph, List.lookup_isSome_iff]
  obtain ⟨met, missing?, hwalk⟩ := exists_walk (fun n => (hoffered n).mp) [] [name]
  obtain ⟨ctx', hloaded', k, past, hafter, hcount⟩ :=
    load_ends_of_walk rootPath baseDir world hhooks hwalk
  have hrun := Context.run_eq_some_iff_leads.mpr ⟨k, past, hafter⟩
  obtain ⟨hprepared, hhooked⟩ := hooked_of_after hafter
  have hstarted : ∀ n, ctx'.registry.isStarted n ↔ n ∈ met := by
    intro n
    rw [← hloaded'.contains_iff]
    refine ⟨Registry.contains_of_isStarted, fun hcontains => ?_⟩
    exact hprepared.started rfl n hcontains
  refine ⟨met, missing?, ctx', fun met' missing?' => ⟨hwalk.unique, ?_⟩,
    ⟨?_, fun depth ended hload => ?_⟩, ?_, fun hok n => ?_, fun missing hmissing => ?_,
    ⟨hloaded'.names, hwalk.nodup List.nodup_nil,
      fun handle hmem => ⟨hloaded'.started handle hmem, ?_⟩⟩,
    ⟨k, past, hafter, hcount, fun n => ⟨?_, fun hmem => ?_⟩⟩,
    fun operations depth b later hlater n hmem => ?_,
    fun other n depth hcatalog hregistry => other.load_of_unknown hcatalog hregistry depth⟩
  · rintro ⟨rfl, rfl⟩
    exact hwalk
  · obtain ⟨depth, hrun⟩ := hrun
    rw [Context.run_load_done] at hrun
    exact ⟨depth, hrun⟩
  · obtain ⟨depth', hrun⟩ := hrun
    exact Context.run_unique (Context.run_load hload) hrun
  · rw [answer_eq_ok_iff, hwalk.eq_none_iff]
    exact forall₂_congr fun n _ => hoffered n
  · obtain rfl := answer_eq_ok_iff.mp hok
    exact hwalk.mem_iff_reaches
  · obtain ⟨hunknown, name', hname', hreaches⟩ := hwalk.of_missing hmissing
    rw [List.mem_singleton.mp hname'] at hreaches
    refine ⟨hreaches, ?_⟩
    rw [← hoffered, hunknown]
    exact Bool.false_ne_true
  · obtain ⟨depth, hrun⟩ := hrun
    have hidle : ctx.Idle := rfl
    exact (hidle.run hrun).isBusy_eq_false hmem
  · rw [hhooked.once]
    exact if_congr (hstarted n) rfl rfl
  · rcases hhooked.ended n ((hstarted n).mpr hmem) with hended | hjob
    · exact hended
    · cases hjob
  · have hactive : ctx'.catalog.IsActive n := by
      rw [hloaded'.catalog]
      exact Catalog.isActive_activated _ hmem
    exact load_after_run hprepared rfl ((hloaded'.contains_iff n).mpr hmem) hactive hlater

/-- Plugins that share what they load, load one another and load themselves: the one that is loaded
asks at last for a name that is not on offer. -/
theorem load_follows_walk_missing :
    let table : List (Text × List Text) :=
      [(['D'], [['A'], ['X']]), (['A'], [['B'], ['C']]), (['B'], [['C'], ['A']]),
        (['C'], [['C']])]
    let plugins := table.map fun (n, names) => (n, Guest.loading n names)
    let ctx : Context Guest (Noted Shelf) := .new Context.defaultRoot Context.defaultBase
      (.offering plugins) ⟨⟨[]⟩, []⟩
    (∀ name plugin, (name, plugin) ∈ plugins →
      (Handler.loaded plugin : Hook Guest (Noted Shelf) _).Requests Prod.snd plugin.requests) ∧
    ∃ depth ctx', ctx.load depth ['D'] = some (.error (.unknownPlugin ['X']), ctx') ∧
      ctx'.registry.names = [['D'], ['A'], ['B'], ['C']] ∧
      ∀ handle ∈ ctx'.registry.handles, handle.initialized ∧ handle.isBusy = false := by
  intro table plugins ctx
  have hhooks : ∀ name plugin, (name, plugin) ∈ plugins →
      (Handler.loaded plugin : Hook Guest (Noted Shelf) _).Requests Prod.snd plugin.requests := by
    intro name plugin hmem
    obtain ⟨⟨n, names⟩, -, heq⟩ := List.mem_map.mp hmem
    cases heq
    exact Guest.requests_loaded name names
  refine ⟨hhooks, ?_⟩
  obtain ⟨met, missing?, ctx', hunique, ⟨⟨depth, hload⟩, -⟩, -, -, -, ⟨hnames, -, hall⟩, -⟩ :=
    load_follows_walk Context.defaultRoot Context.defaultBase plugins ⟨⟨[]⟩, []⟩ Guest.requests
      hhooks ['D']
  have hwalk : LoadGraph.Walk (fun n => (plugins.lookup n).map Guest.requests) [] [['D']]
      [['D'], ['A'], ['B'], ['C']] (some ['X']) := by
    have hlast : LoadGraph.Walk (fun n => (plugins.lookup n).map Guest.requests)
        [['D'], ['A'], ['B']] [['C'], ['A']] [['D'], ['A'], ['B'], ['C']] none :=
      .visit (by decide) rfl (.again (by decide) .nil) (.again (by decide) .nil)
    have hshared : LoadGraph.Walk (fun n => (plugins.lookup n).map Guest.requests)
        [['D'], ['A']] [['B'], ['C']] [['D'], ['A'], ['B'], ['C']] none :=
      .visit (by decide) rfl hlast (.again (by decide) .nil)
    exact .fails (by decide) rfl (.visit (by decide) rfl hshared (.missing (by decide) rfl))
  obtain ⟨rfl, rfl⟩ := (hunique _ _).mp hwalk
  exact ⟨depth, ctx', hload, hnames, hall⟩

end Stencil
