import Mathlib.Logic.Relation
import Stencil.Proofs.Run.History
import Stencil.Proofs.Run.Hooks

namespace Stencil

namespace Turn

variable {η ω : Type} [Offers η] [Handler η ω] {turns : List (Turn η)}

/-- What a plugin may have become by hooks and commands that were run on it under a name. -/
def Descends (ω : Type) [Handler η ω] (name : Text) : η → η → Prop :=
  Relation.ReflTransGen fun plugin plugin' =>
    ∃ job finish, job.plugin = name ∧ Becomes ω job plugin plugin' finish

/-- Whether the turns of a name are those of one plugin, which is registered once. -/
def Serves (ω : Type) [Handler η ω] (turns : List (Turn η)) (name : Text) (plugin : η) : Prop :=
  ∃ rest, turns.filter (fun turn => turn.name = name) = .supplied name plugin :: rest ∧
    ∀ turn ∈ rest, turn.event?.isSome ∧ Descends ω name plugin turn.plugin

theorem Serves.of_last {name : Text} {plugin : η} (hserves : Serves ω turns name plugin)
    {turn : Turn η} (hlast : last turns name = some turn) : Descends ω name plugin turn.plugin := by
  obtain ⟨rest, hfilter, hrest⟩ := hserves
  have hmem := List.mem_of_getLast? hlast
  rw [hfilter] at hmem
  rcases List.mem_cons.mp hmem with rfl | hmem
  · exact .refl
  · exact (hrest turn hmem).2

/-- One more turn of a name that is served is one of its hook or of a command. -/
theorem Serves.snoc {name : Text} {plugin : η} (hserves : Serves ω turns name plugin)
    {turn : Turn η} (hname : turn.name = name) (hfollows : turn.Follows ω turns) :
    Serves ω (turns ++ [turn]) name plugin := by
  have hdescends : turn.event?.isSome ∧ Descends ω name plugin turn.plugin := by
    cases turn with
    | supplied name' plugin' =>
      obtain ⟨rest, hfilter, -⟩ := hserves
      obtain rfl : name' = name := hname
      have hnone : last turns name' = none := hfollows
      rw [last, hfilter] at hnone
      cases List.getLast?_eq_none_iff.mp hnone
    | starts job plugin' =>
      obtain ⟨turn, hlast, hleft⟩ := Option.bind_eq_some_iff.mp hfollows
      obtain rfl : job.plugin = name := hname
      refine ⟨rfl, ?_⟩
      have hstill := hserves.of_last hlast
      rw [left_eq_some hleft] at hstill
      exact hstill
    | ends job plugin' finish =>
      obtain ⟨plugin₁, hlast, hbecomes⟩ := hfollows
      obtain rfl : job.plugin = name := hname
      exact ⟨rfl, (hserves.of_last hlast).tail ⟨job, finish, rfl, hbecomes⟩⟩
  obtain ⟨rest, hfilter, hrest⟩ := hserves
  refine ⟨rest ++ [turn], ?_, fun other hother => ?_⟩
  · rw [List.filter_append, hfilter]
    simp [hname]
  · rcases List.mem_append.mp hother with hother | hother
    · exact hrest other hother
    · rw [List.mem_singleton.mp hother]
      exact hdescends

/-- A name that has turns is served by one plugin. -/
theorem Relay.serves (hrelay : Relay ω turns) {name : Text} (hlast : (last turns name).isSome) :
    ∃ plugin, Serves ω turns name plugin := by
  induction hrelay with
  | nil => cases hlast
  | @snoc past turn hpast hfollows ih =>
    by_cases hname : turn.name = name
    · cases hnone : last past name with
      | some latest =>
        obtain ⟨plugin, hserves⟩ := ih (by rw [hnone]; rfl)
        exact ⟨plugin, hserves.snoc hname hfollows⟩
      | none =>
        cases turn with
        | supplied name' plugin =>
          obtain rfl : name' = name := hname
          refine ⟨plugin, [], ?_, by simp⟩
          rw [List.filter_append, List.getLast?_eq_none_iff.mp hnone]
          simp [Turn.name]
        | starts job plugin =>
          obtain rfl : job.plugin = name := hname
          rw [Follows, hnone] at hfollows
          cases hfollows
        | ends job plugin finish =>
          obtain rfl : job.plugin = name := hname
          obtain ⟨plugin', hstarts, -⟩ := hfollows
          rw [hnone] at hstarts
          cases hstarts
    · rw [last_append_singleton, if_neg hname] at hlast
      obtain ⟨plugin, rest, hfilter, hrest⟩ := ih hlast
      refine ⟨plugin, rest, ?_, hrest⟩
      rw [List.filter_append, hfilter]
      simp [hname]

theorem Relay.serves_of_later {turns' : List (Turn η)} (hrelay : Relay ω turns') {name : Text}
    {plugin : η} (hserves : Serves ω turns name plugin) (hlater : turns <+: turns') :
    Serves ω turns' name plugin := by
  obtain ⟨rest, hfilter, -⟩ := hserves
  obtain ⟨further, rfl⟩ := hlater
  have hlast : (last (turns ++ further) name).isSome := by
    rw [last, List.filter_append, hfilter, List.cons_append, List.getLast?_cons]
    rfl
  obtain ⟨plugin', hserves'⟩ := hrelay.serves hlast
  have heq : plugin' = plugin := by
    obtain ⟨rest', hfilter', -⟩ := hserves'
    rw [List.filter_append, hfilter, List.cons_append] at hfilter'
    cases hfilter'
    rfl
  rw [← heq]
  exact hserves'

variable {registry : Registry η} {name : Text} {plugin : η}

theorem Tell.serves (htell : Tell ω turns registry) (hcontains : registry.contains name) :
    ∃ plugin, Serves ω turns name plugin := by
  rw [htell.contains] at hcontains
  exact htell.relay.serves hcontains

theorem Tell.descends (htell : Tell ω turns registry) (hserves : Serves ω turns name plugin)
    {resting : η} (hresting : registry.resting name = some resting) :
    Descends ω name plugin resting := by
  rw [htell.resting] at hresting
  obtain ⟨turn, hlast, hleft⟩ := Option.bind_eq_some_iff.mp hresting
  rw [← left_eq_some hleft]
  exact hserves.of_last hlast

end Turn

namespace Context

variable {η ω : Type} {ctx : Context η ω}

theorem Settled.instantiate (hsettled : ctx.Settled) : ctx.instantiate = ctx := by
  have hpending : ctx.catalog.pending ctx.registry = [] := by
    refine List.eq_nil_iff_forall_not_mem.mpr fun entry hmem => ?_
    obtain ⟨hentry, hactive, hfree⟩ := Catalog.mem_pending.mp hmem
    rw [hsettled.2 entry hentry hactive] at hfree
    cases hfree
  rw [Context.instantiate, hpending, List.foldl_nil]

theorem Settled.nextUninitialized? (hsettled : ctx.Settled) :
    ctx.registry.nextUninitialized? = none :=
  Registry.nextUninitialized?_eq_none_iff.mpr fun handle hmem => .inl (hsettled.1 handle hmem)

/-- When a name that is registered is activated, nothing waits to be registered. -/
theorem Settled.activate (hsettled : ctx.Settled) {name : Text} {catalog : Catalog η}
    (hcontains : ctx.registry.contains name)
    (hactivate : ctx.catalog.activate? name = some catalog) :
    ({ ctx with catalog } : Context η ω).Settled := by
  refine ⟨hsettled.1, fun entry hmem hactive => ?_⟩
  rcases Catalog.of_mem_activate? hactivate hmem hactive with heq | ⟨old, hold, heq, hactive⟩
  · rw [heq]
    exact hcontains
  · rw [← heq]
    exact hsettled.2 old hold hactive

variable [Reads ω] [Offers η] [Handler η ω]

theorem Settled.settle (hsettled : ctx.Settled) (depth : Nat) :
    ctx.settle (depth + 1) = some (.ok (), ctx) := by
  change (engine depth).runHooksStep ctx.instantiate = _
  rw [hsettled.instantiate, Engine.runHooksStep, hsettled.nextUninitialized?]

/-- A plugin that comes second under a name is dropped, and the answer tells so. -/
theorem Settled.register (hsettled : ctx.Settled) {name : Text}
    (hcontains : ctx.registry.contains name) (plugin : η) (depth : Nat) :
    ctx.register (depth + 1) name plugin = some (.ok false, ctx) := by
  have hregister : ctx.registry.register? name plugin = none :=
    Registry.register?_eq_none_iff.mpr hcontains
  have hsettle : (engine (depth + 1)).settle ctx = some (.ok (), ctx) := hsettled.settle depth
  rw [Context.register, Engine.register]
  simp only [hregister, Option.getD_none, hsettle]
  rfl

/-- A plugin that is registered is not registered again when it is loaded. -/
theorem Settled.load (hsettled : ctx.Settled) {name : Text}
    (hcontains : ctx.registry.contains name) (depth : Nat) :
    ∃ catalog, ctx.load (depth + 1) name = some (.ok (), { ctx with catalog }) := by
  rw [Context.load, Engine.load]
  cases hactivate : ctx.catalog.activate? name with
  | some catalog => exact ⟨catalog, (hsettled.activate hcontains hactivate).settle depth⟩
  | none =>
    refine ⟨ctx.catalog, ?_⟩
    simp only [if_pos hcontains]
    exact hsettled.settle depth

end Context

namespace Registry

variable {η : Type} {registry registry' registry'' : Registry η}

/-- A registry after the other, in which no name and no mark of a hook is lost. -/
structure Lasting (registry registry' : Registry η) : Prop where
  names : registry.names <+: registry'.names
  started : ∀ n, registry.isStarted n → registry'.isStarted n

theorem Lasting.refl (registry : Registry η) : Lasting registry registry :=
  ⟨List.prefix_rfl, fun _ => id⟩

theorem Lasting.trans (hfirst : Lasting registry registry')
    (hsecond : Lasting registry' registry'') : Lasting registry registry'' where
  names := hfirst.names.trans hsecond.names
  started := fun n hstarted => hsecond.started n (hfirst.started n hstarted)

/-- A name keeps its place. -/
theorem Lasting.index (hlasting : Lasting registry registry') {n : Text} {place : Nat}
    (hindex : registry.index n = some place) : registry'.index n = some place := by
  obtain ⟨hbound, hname⟩ := List.getElem?_eq_some_iff.mp (index_eq_some_iff_names.mp hindex)
  rw [index_eq_some_iff_names, List.prefix_iff_getElem?.mp hlasting.names place hbound, hname]

theorem exists_of_isStarted {n : Text} (hstarted : registry.isStarted n) :
    ∃ handle ∈ registry.handles, handle.name = n ∧ handle.initialized := by
  obtain ⟨handle, hlookup⟩ := exists_lookup (contains_of_isStarted hstarted)
  rw [isStarted, hlookup] at hstarted
  exact ⟨handle, mem_of_lookup hlookup, name_of_lookup hlookup, hstarted⟩

theorem names_prefix_withActive (registry : Registry η) (catalog : Catalog η) :
    registry.names <+: (registry.withActive catalog).names := by
  obtain ⟨added, hadded, -⟩ := registry.exists_withActive_eq_append catalog
  rw [names, names, hadded, List.map_append]
  exact List.prefix_append _ _

end Registry

namespace Change

variable {η : Type} {s s' : Snapshot η} {event : Option Event}

theorem lasting (hchange : Change s event s') : s.registry.Lasting s'.registry := by
  cases hchange with
  | stay hcode => exact .refl _
  | @discover s registry catalog hcode hrequest =>
    obtain ⟨added, hgrown⟩ := hrequest.grown
    have hrequested : s.registry.names <+: registry.names := by
      cases hrequest with
      | nothing => exact List.prefix_rfl
      | activate hactivate => exact List.prefix_rfl
      | register hregister =>
        rw [Registry.names_register? hregister]
        exact List.prefix_append _ _
    refine ⟨hrequested.trans (registry.names_prefix_withActive catalog), fun n hstarted => ?_⟩
    rw [hgrown.isStarted]
    exact hstarted
  | settle hdiscovery hnext => exact .refl _
  | startHook hdiscovery hnext =>
    have hcontains := (Registry.of_nextUninitialized? hnext).1
    refine ⟨Registry.names_beginHook ▸ List.prefix_rfl, fun n hstarted => ?_⟩
    exact (Registry.isStarted_beginHook hcontains n).mpr (.inr hstarted)
  | startCommand hcode hlend =>
    refine ⟨Registry.names_lend hlend ▸ List.prefix_rfl, fun n hstarted => ?_⟩
    rw [Registry.isStarted_lend hlend]
    exact hstarted
  | finish =>
    refine ⟨Registry.names_restore .. ▸ List.prefix_rfl, fun n hstarted => ?_⟩
    rw [Registry.isStarted_restore]
    exact hstarted

end Change

open Moment Turn

variable {η ω α : Type} [Reads ω] [Offers η] [Handler η ω]

/-- Code that registers a plugin under a name that is taken goes on after a discovery that finds
nothing to do. -/
theorem after_register {ctx : Context η ω} (hsettled : ctx.Settled) {name : Text}
    (hcontains : ctx.registry.contains name) {role : Role} (stack : Stack η ω α role) {plugin : η}
    (next : Except RenderError Bool → Code η ω α role) :
    (code stack (.register name plugin next) ctx).after 2 =
      some ([], code stack (next (.ok false)) ctx) := by
  have hregister : ctx.registry.register? name plugin = none :=
    Registry.register?_eq_none_iff.mpr hcontains
  have hstep : (code stack (.register name plugin next) ctx).step =
      some (none, discovery stack (fun result => next (result.map fun _ => false)) ctx) := by
    simp only [step, hregister, Option.getD_none, hsettled.instantiate]
    rfl
  have hafter : (code stack (.register name plugin next) ctx).after 1 =
      some ([], discovery stack (fun result => next (result.map fun _ => false)) ctx) :=
    after_succ_eq_some_iff.mpr ⟨[], _, none, rfl, hstep, rfl⟩
  have hnext := hsettled.nextUninitialized?
  exact after_succ_eq_some_iff.mpr ⟨[], _, none, hafter, step_discovery_of_none hnext, rfl⟩

theorem Moment.Leads.lasting {m m' : Moment η ω α} (hleads : m.Leads m') :
    m.ctx.registry.Lasting m'.ctx.registry := by
  obtain ⟨k, further, hafter⟩ := hleads
  exact holds_of_after (fun s _ => m.ctx.registry.Lasting s.registry) (Registry.Lasting.refl _)
    (fun hchange hlasting => hlasting.trans hchange.lasting) hafter

/-- In a run from a context in which nothing is registered yet, every name has one handle, to whose
place the index leads, and the names only grow, each keeping its place and the mark that its hook
was started. A plugin that is registered under a name that is taken, be its plugin at rest or
running, is dropped without being run, and the context stays as it is; nor is any registered when a
name that is taken is loaded. So whatever is run under a name comes from the plugin that was
registered under it once, at first. The end of the run is what the engine comes to. -/
theorem first_registered_serves (rootPath baseDir : Text) (plugins : List (Text × η)) (world : ω)
    (script : Hook η ω α) {n : Nat} {past : List Event} {m : Moment η ω α}
    (hrun : (start script (.new rootPath baseDir (.offering plugins) world)).after n =
      some (past, m)) :
    (m.ctx.registry.names.Nodup ∧
      (∀ name place, m.ctx.registry.index name = some place ↔
        ∃ handle, m.ctx.registry.handles[place]? = some handle ∧ handle.name = name) ∧
      (∀ name handle, m.ctx.registry.lookup name = some handle ↔
        handle ∈ m.ctx.registry.handles ∧ handle.name = name) ∧
      ∀ name, m.ctx.registry.lookup name = none ↔ name ∉ m.ctx.registry.names) ∧
    (∀ k further m', m.after k = some (further, m') →
      m.ctx.registry.names <+: m'.ctx.registry.names ∧
      (∀ name place, m.ctx.registry.index name = some place →
        m'.ctx.registry.index name = some place) ∧
      ∀ handle ∈ m.ctx.registry.handles, handle.initialized →
        ∃ handle' ∈ m'.ctx.registry.handles, handle'.name = handle.name ∧ handle'.initialized) ∧
    (m.isDiscovery = false → ∀ name ∈ m.ctx.registry.names, ∀ plugin,
      (∀ depth, m.ctx.register (depth + 1) name plugin = some (.ok false, m.ctx)) ∧
      ∀ {role : Role} (stack : Stack η ω α role) (next : Except RenderError Bool → Code η ω α role),
        m = code stack (.register name plugin next) m.ctx →
        m.after 2 = some ([], code stack (next (.ok false)) m.ctx)) ∧
    (m.isDiscovery = false → ∀ name ∈ m.ctx.registry.names, ∀ depth, ∃ catalog,
      m.ctx.load (depth + 1) name = some (.ok (), { m.ctx with catalog })) ∧
    (∀ name ∈ m.ctx.registry.names, ∃ plugin, ∀ k further m', m.after k = some (further, m') →
      Serves ω ((start script (.new rootPath baseDir (.offering plugins) world)).turns (n + k))
        name plugin ∧
      ∀ resting, m'.ctx.registry.resting name = some resting → Descends ω name plugin resting) ∧
    (∀ (a : α) (ctx' : Context η ω),
      (∃ depth, (Context.new rootPath baseDir (.offering plugins) world).run depth script =
          some (a, ctx')) ↔
        (start script (.new rootPath baseDir (.offering plugins) world)).Leads (ended a ctx')) := by
  have hprepared := (hooked_of_after hrun).1
  refine ⟨⟨m.ctx.registry.nodup_names, fun name place => Registry.index_eq_some_iff,
      fun name handle => Registry.lookup_eq_some_iff, fun name => ?_⟩,
    fun k further m' hafter => ?_, fun hcode name hmem plugin => ?_,
    fun hcode name hmem depth => ?_, fun name hmem => ?_,
    fun a ctx' => Context.run_eq_some_iff_leads⟩
  · rw [← Registry.contains_iff_mem_names, Registry.lookup_eq_none_iff, Bool.not_eq_true]
  · have hlasting := Leads.lasting ⟨k, further, hafter⟩
    refine ⟨hlasting.names, fun name place => hlasting.index, fun handle hmem hinitialized => ?_⟩
    have hstarted : m.ctx.registry.isStarted handle.name := by
      rw [Registry.isStarted, Registry.lookup_of_mem hmem]
      exact hinitialized
    exact Registry.exists_of_isStarted (hlasting.started _ hstarted)
  · have hsettled := hprepared.settled hcode
    have hcontains := (m.ctx.registry.contains_iff_mem_names name).mpr hmem
    refine ⟨hsettled.register hcontains plugin, fun stack next hm => ?_⟩
    rw [hm]
    exact after_register hsettled hcontains stack next
  · have hcontains := (m.ctx.registry.contains_iff_mem_names name).mpr hmem
    exact (hprepared.settled hcode).load hcontains depth
  · have hcontains := (m.ctx.registry.contains_iff_mem_names name).mpr hmem
    obtain ⟨plugin, hserves⟩ := (told_of_after hrun).tell.serves hcontains
    refine ⟨plugin, fun k further m' hafter => ?_⟩
    have htold := told_of_after (after_add hrun hafter)
    have hserves' := htold.tell.relay.serves_of_later hserves (turns_isPrefix _ n k)
    exact ⟨hserves', fun resting hresting => htold.tell.descends hserves' hresting⟩

/-- The hook of a plugin registers another plugin under the name of the first, which is running: the
second is dropped, and the first serves the name. -/
theorem first_registered_serves_while_running :
    let second : Guest := .plain ['A']
    let first : Guest := .bound ⟨['A'], ⟨[(['x'], .value)]⟩, .new [⟨.register ['A'] second, false⟩]⟩
    let script : Hook Guest (Noted Shelf) (Except RenderError Bool) := .register ['A'] first .done
    ∃ (past : List Event) (stack : Stack Guest (Noted Shelf) (Except RenderError Bool) .hook)
      (next : Except RenderError Bool → Code Guest (Noted Shelf) (Except RenderError Bool) .hook)
      (ctx : Context Guest (Noted Shelf)),
      (start script (.new Context.defaultRoot Context.defaultBase (.offering []) ⟨⟨[]⟩, []⟩)).after
        3 = some (past, code stack (.register ['A'] second next) ctx) ∧
      ctx.registry.isBusy ['A'] ∧
      (∀ depth, ctx.register (depth + 1) ['A'] second = some (.ok false, ctx)) ∧
      (code stack (.register ['A'] second next) ctx).after 2 =
        some ([], code stack (next (.ok false)) ctx) ∧
      Serves (Noted Shelf)
        ((start script (.new Context.defaultRoot Context.defaultBase (.offering [])
          ⟨⟨[]⟩, []⟩)).turns (3 + 2)) ['A'] first := by
  intro second first script
  refine ⟨_, _, _, _, rfl, rfl, ?_⟩
  obtain ⟨-, -, hsecond, -, hserves, -⟩ :=
    first_registered_serves Context.defaultRoot Context.defaultBase [] ⟨⟨[]⟩, []⟩ script
      (n := 3) rfl
  have htaken := hsecond rfl ['A'] List.mem_cons_self second
  have hlater := htaken.2 _ _ rfl
  obtain ⟨plugin, hplugin⟩ := hserves ['A'] List.mem_cons_self
  have hserved := (hplugin 2 _ _ hlater).1
  have hfirst := hserved
  obtain ⟨rest, hfilter, -⟩ := hfirst
  obtain rfl : first = plugin := by
    have hhead := congrArg List.head? hfilter
    cases hhead
    rfl
  exact ⟨htaken.1, hlater, hserved⟩

end Stencil
