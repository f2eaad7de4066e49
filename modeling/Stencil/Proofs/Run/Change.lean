import Stencil.Proofs.Registry.Growth
import Stencil.Proofs.Run.Moment

namespace Stencil

/-- What is seen of a moment from the registry. -/
structure Snapshot (η : Type) where
  /-- whether hooks are being looked for -/
  discovering : Bool
  /-- the hooks and commands whose code is under way, the innermost first -/
  jobs : List Job
  registry : Registry η
  catalog : Catalog η

namespace Snapshot

variable {η : Type}

/-- The plugins whose code is under way, the innermost first. -/
def running (s : Snapshot η) : List Text :=
  s.jobs.map Job.plugin

end Snapshot

/-- What code may do to registry and catalog before discovery begins. -/
inductive Request {η : Type} (registry : Registry η) (catalog : Catalog η) :
    Registry η → Catalog η → Prop
  | nothing : Request registry catalog registry catalog
  | activate {name : Text} {catalog' : Catalog η}
      (hactivate : catalog.activate? name = some catalog') :
      Request registry catalog registry catalog'
  | register {name : Text} {plugin : η} {registry' : Registry η}
      (hregister : registry.register? name plugin = some registry') :
      Request registry catalog registry' catalog

/-- A request and the discovery that follows it add plugins and touch no other. -/
theorem Request.grown {η : Type} {registry registry' : Registry η} {catalog catalog' : Catalog η}
    (hrequest : Request registry catalog registry' catalog') :
    ∃ added, Registry.Grown added registry (registry'.withActive catalog') := by
  cases hrequest with
  | nothing => exact ⟨_, Registry.grown_withActive _ _⟩
  | activate hactivate => exact ⟨_, Registry.grown_withActive _ _⟩
  | register hregister =>
    exact ⟨_, (Registry.grown_of_register? hregister).trans (Registry.grown_withActive _ _)⟩

/-- When everything active has been registered before, a request leads to the registration of one
plugin at most. -/
theorem Request.grown_by_one {η : Type} {registry registry' : Registry η}
    {catalog catalog' : Catalog η} (hrequest : Request registry catalog registry' catalog')
    (hregistered : catalog.Registered registry) :
    ∃ name, ∀ n, (registry'.withActive catalog').contains n → registry.contains n ∨ n = name := by
  cases hrequest with
  | nothing =>
    refine ⟨[], fun n hcontains => ?_⟩
    rcases (Registry.grown_withActive _ _).contains n |>.mp hcontains with hcontains | hadded
    · exact .inl hcontains
    · obtain ⟨entry, hpending, rfl⟩ := List.mem_map.mp hadded
      obtain ⟨hmem, hactive, -⟩ := Catalog.mem_pending.mp hpending
      exact .inl (hregistered entry hmem hactive)
  | @activate name catalog' hactivate =>
    refine ⟨name, fun n hcontains => ?_⟩
    rcases (Registry.grown_withActive _ _).contains n |>.mp hcontains with hcontains | hadded
    · exact .inl hcontains
    · obtain ⟨entry, hpending, rfl⟩ := List.mem_map.mp hadded
      obtain ⟨hmem, hactive, -⟩ := Catalog.mem_pending.mp hpending
      rcases Catalog.of_mem_activate? hactivate hmem hactive with heq | ⟨old, hold, heq, hactive⟩
      · exact .inr heq
      · exact .inl (heq ▸ hregistered old hold hactive)
  | @register name plugin registry' hregister =>
    have hgrown := Registry.grown_of_register? hregister
    refine ⟨name, fun n hcontains => ?_⟩
    rcases (Registry.grown_withActive _ _).contains n |>.mp hcontains with hcontains | hadded
    · rcases (hgrown.contains n).mp hcontains with hcontains | hadded
      · exact .inl hcontains
      · exact .inr (List.mem_singleton.mp hadded)
    · obtain ⟨entry, hpending, rfl⟩ := List.mem_map.mp hadded
      obtain ⟨hmem, hactive, -⟩ := Catalog.mem_pending.mp hpending
      exact .inl (hregistered entry hmem hactive)

/-- The changes that steps make, with what can be told of them. -/
inductive Change {η : Type} : Snapshot η → Option Event → Snapshot η → Prop
  /-- code goes on, or a render does -/
  | stay {s : Snapshot η} (hcode : s.discovering = false) : Change s none s
  /-- code asks for something, and discovery begins -/
  | discover {s : Snapshot η} {registry : Registry η} {catalog : Catalog η}
      (hcode : s.discovering = false)
      (hrequest : Request s.registry s.catalog registry catalog) :
      Change s none ⟨true, s.jobs, registry.withActive catalog, catalog⟩
  /-- discovery finds nothing more to do -/
  | settle {s : Snapshot η} (hdiscovery : s.discovering = true)
      (hnext : s.registry.nextUninitialized? = none) :
      Change s none { s with discovering := false }
  /-- discovery takes a plugin out to run its hook -/
  | startHook {s : Snapshot η} {name : Text} {plugin : η} (hdiscovery : s.discovering = true)
      (hnext : s.registry.nextUninitialized? = some (name, plugin)) :
      Change s (some (.starts (.hook name)))
        ⟨false, .hook name :: s.jobs, s.registry.beginHook name, s.catalog⟩
  /-- a render takes a plugin out to run a command -/
  | startCommand {s : Snapshot η} {name method : Text} {plugin : η} {registry : Registry η}
      (hcode : s.discovering = false)
      (hlend : s.registry.lend? name = some (plugin, registry)) :
      Change s (some (.starts (.command name method)))
        ⟨false, .command name method :: s.jobs, registry, s.catalog⟩
  /-- a hook or a command ends, and its plugin is put back -/
  | finish {job : Job} {jobs : List Job} {registry : Registry η} {catalog : Catalog η}
      {plugin : η} {discovering : Bool} :
      Change ⟨false, job :: jobs, registry, catalog⟩ (some (.ends job))
        ⟨discovering, jobs, registry.restore job.plugin plugin, catalog⟩

namespace Event

/-- The job that is begun or has ended when other jobs are under way than before. -/
def between (jobs jobs' : List Job) : Option Event :=
  if jobs'.length = jobs.length then none
  else if jobs'.length = jobs.length + 1 then jobs'.head?.map starts
  else jobs.head?.map ends

@[simp] theorem between_self (jobs : List Job) : between jobs jobs = none :=
  if_pos rfl

@[simp] theorem between_cons_right (job : Job) (jobs : List Job) :
    between jobs (job :: jobs) = some (starts job) := by
  simp [between]

@[simp] theorem between_cons_left (job : Job) (jobs : List Job) :
    between (job :: jobs) jobs = some (ends job) := by
  have hmore : jobs.length ≠ (job :: jobs).length + 1 := by
    rw [List.length_cons]
    omega
  rw [between, if_neg (by simp), if_neg hmore]
  rfl

end Event

namespace Change

variable {η : Type} {s s' : Snapshot η} {event : Option Event}

theorem event_eq (hchange : Change s event s') : event = Event.between s.jobs s'.jobs := by
  cases hchange <;> simp

/-- Nothing comes to be on offer. -/
theorem offers (hchange : Change s event s') {name : Text} {fresh : η}
    (hoffers : s'.catalog.Offers name fresh) : s.catalog.Offers name fresh := by
  cases hchange with
  | discover hcode hrequest =>
    cases hrequest with
    | nothing => exact hoffers
    | activate hactivate => exact Catalog.offers_of_activate? hactivate hoffers
    | register hregister => exact hoffers
  | _ => exact hoffers

end Change

namespace Directive

variable {η ω : Type}

/-- An answer that needs no command leaves registry and catalog as they are. -/
theorem answer_keeps [Reads ω] (directive : Directive) (ctx : Context η ω) :
    (directive.answer ctx).2.registry = ctx.registry ∧
      (directive.answer ctx).2.catalog = ctx.catalog := by
  rw [answer]
  cases directive.target with
  | bare name => exact ⟨rfl, rfl⟩
  | call name method params =>
    simp only
    split
    · exact ⟨rfl, rfl⟩
    split
    · cases params.get "file" with
      | none => exact ⟨rfl, rfl⟩
      | some file => exact ⟨rfl, rfl⟩
    · exact ⟨rfl, rfl⟩

theorem lend?_of_call? [Offers η] {directive : Directive} {ctx : Context η ω} {call : Call η}
    (hcall : directive.call? ctx = some call) :
    ctx.registry.lend? call.name = some (call.plugin, call.registry) := by
  rw [call?] at hcall
  split at hcall
  · cases hcall
  split at hcall
  · cases hcall
  · next hlend =>
    split at hcall
    · cases hcall
      exact hlend
    · cases hcall

end Directive

namespace Stack

variable {η ω α : Type} {role : Role}

theorem jobs_emit (stack : Stack η ω α role) (output : role.Output) :
    (stack.emit output).jobs = stack.jobs := by
  cases stack with
  | host => rfl
  | hook name below next => rfl
  | command name method outputs progress below next => rfl

end Stack

namespace Moment

variable {η ω α : Type}

/-- What is seen of a moment from the registry. -/
def snapshot (m : Moment η ω α) : Snapshot η :=
  ⟨m.isDiscovery, m.jobs, m.ctx.registry, m.ctx.catalog⟩

/-- When code has ended, its plugin is put back. -/
theorem change_of_resume {role : Role} {stack : Stack η ω α role} {a : role.Ending η α}
    {ctx : Context η ω} {event : Option Event} {m' : Moment η ω α}
    (hresume : stack.resume a ctx = some (event, m')) :
    Change (code stack (.done a) ctx).snapshot event m'.snapshot := by
  cases stack with
  | host => cases hresume
  | hook name below next =>
    obtain ⟨plugin, cause | ⟨⟩⟩ := a
    · cases hresume
      exact .finish
    · cases hresume
      exact .finish
  | command name method outputs progress below next =>
    obtain ⟨plugin, result⟩ := a
    cases hresume
    exact .finish

variable [Reads ω] [Offers η] [Handler η ω] {role : Role}

theorem change_of_code {stack : Stack η ω α role} {script : Code η ω α role} {ctx : Context η ω}
    {m' : Moment η ω α} {event : Option Event}
    (hstep : (code stack script ctx).step = some (event, m')) :
    Change (code stack script ctx).snapshot event m'.snapshot := by
  cases script with
  | done a => exact change_of_resume hstep
  | emit output next =>
    cases hstep
    have hsame : (code (stack.emit output) next ctx).snapshot =
        (code stack (.emit output next) ctx).snapshot := by
      simp [snapshot, isDiscovery, jobs, Moment.ctx, Stack.jobs_emit]
    rw [hsame]
    exact .stay rfl
  | render text next =>
    cases hstep
    exact .stay rfl
  | load name next =>
    cases hactivate : ctx.catalog.activate? name with
    | some catalog =>
      rw [step_load_of_activate hactivate] at hstep
      cases hstep
      exact .discover rfl (.activate hactivate)
    | none =>
      by_cases hcontains : ctx.registry.contains name
      · rw [step_load_of_registered hactivate hcontains] at hstep
        cases hstep
        exact .discover rfl .nothing
      · rw [step_load_of_unknown hactivate hcontains] at hstep
        cases hstep
        exact .stay rfl
  | register name plugin next =>
    cases hstep
    cases hregister : ctx.registry.register? name plugin with
    | some registry => exact .discover rfl (.register hregister)
    | none => exact .discover rfl .nothing
  | settle next =>
    cases hstep
    exact .discover rfl .nothing
  | setBase dir next | read path next | observe next | update change next =>
    cases hstep
    exact .stay rfl

theorem change_of_rendering {stack : Stack η ω α role}
    {next : Except RenderError Text → Code η ω α role} {progress : Rendering} {ctx : Context η ω}
    {m' : Moment η ω α} {event : Option Event}
    (hstep : (rendering stack next progress ctx).step = some (event, m')) :
    Change (rendering stack next progress ctx).snapshot event m'.snapshot := by
  cases hrest : progress.rest with
  | nil =>
    rw [step_rendering_of_nil hrest] at hstep
    cases hstep
    exact .stay rfl
  | cons directive rest =>
    cases hcall : directive.call? ctx with
    | some call =>
      rw [step_rendering_of_call hrest hcall] at hstep
      cases hstep
      exact .startCommand rfl (Directive.lend?_of_call? hcall)
    | none =>
      obtain ⟨hregistry, hcatalog⟩ := directive.answer_keeps ctx
      have hsame : ∀ (m : Moment η ω α), m.ctx = (directive.answer ctx).2 →
          m.isDiscovery = false → m.jobs = stack.jobs →
          Change (rendering stack next progress ctx).snapshot none m.snapshot := by
        intro m hctx hdiscovery hjobs
        have hsnapshot : m.snapshot = (rendering stack next progress ctx).snapshot := by
          rw [snapshot, hctx, hdiscovery, hjobs, hregistry, hcatalog]
          rfl
        rw [hsnapshot]
        exact .stay rfl
      rcases hanswer : directive.answer ctx with ⟨cause | resolution, ctx₁⟩
      · rw [step_rendering_of_error hrest hcall hanswer] at hstep
        cases hstep
        exact hsame _ (by rw [hanswer]; rfl) rfl rfl
      · rw [step_rendering_of_ok hrest hcall hanswer] at hstep
        cases hstep
        exact hsame _ (by rw [hanswer]; rfl) rfl rfl

theorem change_of_looking {stack : Stack η ω α role}
    {next : Except RenderError Unit → Code η ω α role} {ctx : Context η ω} {m' : Moment η ω α}
    {event : Option Event} (hstep : (discovery stack next ctx).step = some (event, m')) :
    Change (discovery stack next ctx).snapshot event m'.snapshot := by
  cases hnext : ctx.registry.nextUninitialized? with
  | none =>
    rw [step_discovery_of_none hnext] at hstep
    cases hstep
    exact .settle rfl hnext
  | some waiting =>
    obtain ⟨name, plugin⟩ := waiting
    rw [step_discovery_of_some hnext] at hstep
    cases hstep
    exact .startHook rfl hnext

/-- Every step makes one of the changes. -/
theorem change_of_step {m m' : Moment η ω α} {event : Option Event}
    (hstep : m.step = some (event, m')) : Change m.snapshot event m'.snapshot := by
  cases m with
  | code stack script ctx => exact change_of_code hstep
  | rendering stack next progress ctx => exact change_of_rendering hstep
  | discovery stack next ctx => exact change_of_looking hstep

/-- What holds at first and is kept by every change holds at every moment of a run. -/
theorem holds_of_after (holds : Snapshot η → List Event → Prop) {first : Moment η ω α}
    (hfirst : holds first.snapshot [])
    (hkept : ∀ {s s' event past}, Change s event s' → holds s past →
      holds s' (past ++ event.toList))
    {n : Nat} {past : List Event} {m : Moment η ω α} (hafter : first.after n = some (past, m)) :
    holds m.snapshot past := by
  induction n generalizing past m with
  | zero =>
    cases hafter
    exact hfirst
  | succ n ih =>
    obtain ⟨past', m₁, event, hpast, hstep, rfl⟩ := after_succ_eq_some_iff.mp hafter
    exact hkept (change_of_step hstep) (ih hpast)

end Moment

end Stencil
