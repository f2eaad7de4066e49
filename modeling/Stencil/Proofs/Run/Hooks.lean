import Stencil.Proofs.Run.Busy

namespace Stencil

/-- At most one plugin waits for its hook, and that only while hooks are being looked for. -/
structure Prepared {η : Type} (s : Snapshot η) : Prop where
  registered : s.catalog.Registered s.registry
  started : s.discovering = false → ∀ n, s.registry.contains n → s.registry.isStarted n
  waiting : ∀ n n', s.registry.contains n → s.registry.isStarted n = false →
    s.registry.contains n' → s.registry.isStarted n' = false → n = n'
  busy : ∀ n, s.registry.isBusy n → s.registry.isStarted n

namespace Prepared

variable {η : Type} {s s' : Snapshot η} {event : Option Event}

/-- Where every hook has been started, nobody waits. -/
theorem of_started {discovering : Bool} {jobs : List Job} {registry : Registry η}
    {catalog : Catalog η} (hregistered : catalog.Registered registry)
    (hstarted : ∀ n, registry.contains n → registry.isStarted n) :
    Prepared ⟨discovering, jobs, registry, catalog⟩ where
  registered := hregistered
  started := fun _ => hstarted
  waiting := by
    intro n n' hcontains hwaiting
    simp only [hstarted n hcontains] at hwaiting
    cases hwaiting
  busy := fun n hbusy => hstarted n (Registry.contains_of_isBusy hbusy)

/-- Every change keeps it so. -/
theorem of_change (hchange : Change s event s') (hprepared : Prepared s) : Prepared s' := by
  cases hchange with
  | stay hcode => exact hprepared
  | @discover s registry catalog hcode hrequest =>
    obtain ⟨added, hgrown⟩ := hrequest.grown
    obtain ⟨name, hone⟩ := hrequest.grown_by_one hprepared.registered
    -- everybody registered before had been started, so only the one that is new can wait
    have hnew : ∀ n, (registry.withActive catalog).contains n →
        (registry.withActive catalog).isStarted n = false → n = name := by
      intro n hcontains hwaiting
      rcases hone n hcontains with hold | heq
      · rw [hgrown.isStarted, hprepared.started hcode n hold] at hwaiting
        cases hwaiting
      · exact heq
    exact {
      registered := Registry.registered_withActive registry catalog
      started := fun hdiscovery => by cases hdiscovery
      waiting := fun n n' hcontains hwaiting hcontains' hwaiting' =>
        (hnew n hcontains hwaiting).trans (hnew n' hcontains' hwaiting').symm
      busy := fun n hbusy => by
        rw [hgrown.isBusy] at hbusy
        rw [hgrown.isStarted]
        exact hprepared.busy n hbusy }
  | settle hdiscovery hnext =>
    apply of_started hprepared.registered
    intro n hcontains
    rcases Registry.of_nextUninitialized?_eq_none hnext hcontains with hstarted | hbusy
    · exact hstarted
    · exact hprepared.busy n hbusy
  | @startHook s name plugin hdiscovery hnext =>
    obtain ⟨hname, -, hwaiting⟩ := Registry.of_nextUninitialized? hnext
    apply of_started
    · intro entry hmem hactive
      rw [Registry.contains_beginHook]
      exact hprepared.registered entry hmem hactive
    · intro n hcontains
      rw [Registry.contains_beginHook] at hcontains
      rw [Registry.isStarted_beginHook hname]
      cases hstarted : s.registry.isStarted n with
      | true => exact .inr rfl
      | false => exact .inl (hprepared.waiting n name hcontains hstarted hname hwaiting)
  | startCommand hcode hlend =>
    apply of_started
    · intro entry hmem hactive
      rw [Registry.contains_lend hlend]
      exact hprepared.registered entry hmem hactive
    · intro n hcontains
      rw [Registry.contains_lend hlend] at hcontains
      rw [Registry.isStarted_lend hlend]
      exact hprepared.started hcode n hcontains
  | finish =>
    apply of_started
    · intro entry hmem hactive
      rw [Registry.contains_restore]
      exact hprepared.registered entry hmem hactive
    · intro n hcontains
      rw [Registry.contains_restore] at hcontains
      rw [Registry.isStarted_restore]
      exact hprepared.started rfl n hcontains

end Prepared

/-- What has happened to hooks so far: those that were started were started once, and have ended
unless they are under way; and no command was started before the hook of its plugin had ended. -/
structure Hooked {η : Type} (s : Snapshot η) (past : List Event) : Prop where
  once : ∀ n, past.count (.starts (.hook n)) = if s.registry.isStarted n then 1 else 0
  ended : ∀ n, s.registry.isStarted n → .ends (.hook n) ∈ past ∨ .hook n ∈ s.jobs
  first : ∀ before rest name method, past = before ++ .starts (.command name method) :: rest →
    .ends (.hook name) ∈ before

namespace Hooked

variable {η : Type} {s s' : Snapshot η} {event : Option Event} {past : List Event}

/-- One more event keeps the order of hooks and commands, unless it starts a command too early. -/
theorem first_append (hhooked : Hooked s past) {event : Event}
    (hevent : ∀ name method, event = .starts (.command name method) → .ends (.hook name) ∈ past) :
    ∀ before rest name method, past ++ [event] = before ++ .starts (.command name method) :: rest →
      .ends (.hook name) ∈ before := by
  intro before rest name method hsplit
  rcases List.eq_nil_or_concat rest with rfl | ⟨rest, last, rfl⟩
  · obtain ⟨rfl, heq⟩ := List.append_inj' hsplit rfl
    exact hevent name method (List.singleton_inj.mp heq)
  · rw [List.concat_eq_append, ← List.cons_append, ← List.append_assoc] at hsplit
    obtain ⟨hpast, -⟩ := List.append_inj' hsplit rfl
    exact hhooked.first before rest name method hpast

/-- Every change keeps it so. -/
theorem of_change (hchange : Change s event s') (hbalanced : Balanced .empty s)
    (hprepared : Prepared s) (hhooked : Hooked s past) : Hooked s' (past ++ event.toList) := by
  cases hchange with
  | stay hcode =>
    rw [Option.toList_none, List.append_nil]
    exact hhooked
  | discover hcode hrequest =>
    obtain ⟨added, hgrown⟩ := hrequest.grown
    rw [Option.toList_none, List.append_nil]
    refine ⟨fun n => ?_, fun n hstarted => ?_, hhooked.first⟩
    · rw [hgrown.isStarted]
      exact hhooked.once n
    · rw [hgrown.isStarted] at hstarted
      exact hhooked.ended n hstarted
  | settle hdiscovery hnext =>
    rw [Option.toList_none, List.append_nil]
    exact ⟨hhooked.once, hhooked.ended, hhooked.first⟩
  | @startHook s name plugin hdiscovery hnext =>
    obtain ⟨hname, -, hwaiting⟩ := Registry.of_nextUninitialized? hnext
    refine ⟨fun n => ?_, fun n hstarted => ?_, hhooked.first_append fun _ _ heq => by cases heq⟩
    · have honce := hhooked.once n
      have hstarted := Registry.isStarted_beginHook hname n
      rw [Option.toList_some, List.count_append, honce, List.count_singleton]
      by_cases hn : n = name
      · subst hn
        simp [hstarted, hwaiting]
      · simp [hstarted, hn, Ne.symm hn]
    · rcases (Registry.isStarted_beginHook hname n).mp hstarted with rfl | hstarted
      · exact .inr List.mem_cons_self
      · rcases hhooked.ended n hstarted with hended | hjob
        · exact .inl (List.mem_append_left _ hended)
        · exact .inr (List.mem_cons_of_mem _ hjob)
  | @startCommand s name method plugin registry hcode hlend =>
    have hfree := Registry.not_isBusy_of_lend? hlend
    -- a hook under way would keep its plugin busy, and a busy plugin is not lent
    have hended : .ends (.hook name) ∈ past := by
      have hstarted := hprepared.started hcode name (Registry.contains_of_lend? hlend)
      rcases hhooked.ended name hstarted with hended | hjob
      · exact hended
      · have hbusy := (hbalanced.busy name).mpr (.inl (List.mem_map_of_mem hjob))
        rw [hfree] at hbusy
        cases hbusy
    refine ⟨fun n => ?_, fun n hstarted => ?_, hhooked.first_append fun _ _ heq => ?_⟩
    · rw [Option.toList_some, List.count_append, hhooked.once, Registry.isStarted_lend hlend]
      simp
    · rw [Registry.isStarted_lend hlend] at hstarted
      rcases hhooked.ended n hstarted with hended | hjob
      · exact .inl (List.mem_append_left _ hended)
      · exact .inr (List.mem_cons_of_mem _ hjob)
    · cases heq
      exact hended
  | @finish job jobs registry catalog plugin discovering =>
    refine ⟨fun n => ?_, fun n hstarted => ?_, hhooked.first_append fun _ _ heq => by cases heq⟩
    · rw [Option.toList_some, List.count_append, hhooked.once, Registry.isStarted_restore]
      simp
    · rw [Registry.isStarted_restore] at hstarted
      rcases hhooked.ended n hstarted with hended | hjob
      · exact .inl (List.mem_append_left _ hended)
      · rcases List.mem_cons.mp hjob with rfl | hjob
        · exact .inl (List.mem_append_right _ (by simp))
        · exact .inr hjob

end Hooked

/-- A context in which no hook waits to be started and no active entry waits to be registered. -/
def Context.Settled {η ω : Type} (ctx : Context η ω) : Prop :=
  (∀ handle ∈ ctx.registry.handles, handle.initialized) ∧ ctx.catalog.Registered ctx.registry

open Moment

namespace Prepared

variable {η ω α : Type} {m : Moment η ω α}

theorem settled (hprepared : Prepared m.snapshot) (hcode : m.isDiscovery = false) :
    m.ctx.Settled := by
  refine ⟨fun handle hmem => ?_, hprepared.registered⟩
  have hlookup := Registry.lookup_of_mem hmem
  have hstarted := hprepared.started hcode handle.name (Registry.contains_of_lookup hlookup)
  rw [Registry.isStarted, snapshot, hlookup] at hstarted
  exact hstarted

variable [Reads ω] [Offers η] [Handler η ω]

theorem of_after {script : Hook η ω α} {ctx : Context η ω}
    (hprepared : Prepared (start script ctx).snapshot) {n : Nat} {past : List Event}
    (hrun : (start script ctx).after n = some (past, m)) : Prepared m.snapshot :=
  holds_of_after (fun s _ => Prepared s) hprepared
    (fun hchange hprepared => hprepared.of_change hchange) hrun

/-- Host code that begins where nothing waits ends where nothing waits. -/
theorem settled_of_run (hprepared : Prepared m.snapshot) (hcode : m.isDiscovery = false)
    {β : Type} {operations : Hook η ω β} {depth : Nat} {b : β} {ctx' : Context η ω}
    (hrun : m.ctx.run depth operations = some (b, ctx')) : ctx'.Settled := by
  obtain ⟨n, past, hafter⟩ := Context.run_eq_some_iff_leads.mp ⟨depth, hrun⟩
  have hstart : Prepared (start operations m.ctx).snapshot :=
    of_started hprepared.registered (hprepared.started hcode)
  exact (hstart.of_after hafter).settled rfl

end Prepared

section Fresh

variable {η ω α : Type} (rootPath baseDir : Text) (plugins : List (Text × η)) (world : ω)
  (script : Hook η ω α)

theorem prepared_start :
    Prepared (start script (.new rootPath baseDir (.offering plugins) world)).snapshot := by
  apply Prepared.of_started
  · intro entry hmem hactive
    rw [Catalog.active_eq_false_of_mem_offering hmem] at hactive
    cases hactive
  · intro name hcontains
    cases hcontains

theorem hooked_start :
    Hooked (start script (.new rootPath baseDir (.offering plugins) world)).snapshot [] where
  once := fun _ => rfl
  ended := fun _ hstarted => by cases hstarted
  first := fun before rest name method hsplit => by
    cases before with
    | nil => cases hsplit
    | cons event before => cases hsplit

variable [Reads ω] [Offers η] [Handler η ω] {rootPath baseDir plugins world script}

theorem hooked_of_after {n : Nat} {past : List Event} {m : Moment η ω α}
    (hrun : (start script (.new rootPath baseDir (.offering plugins) world)).after n =
      some (past, m)) : Prepared m.snapshot ∧ Hooked m.snapshot past := by
  have hholds := holds_of_after (fun s past => Balanced .empty s ∧ Prepared s ∧ Hooked s past)
    ⟨balanced_start script (.new rootPath baseDir (.offering plugins) world),
      prepared_start rootPath baseDir plugins world script,
      hooked_start rootPath baseDir plugins world script⟩
    (fun hchange ⟨hbalanced, hprepared, hhooked⟩ =>
      ⟨hbalanced.of_change hchange, hprepared.of_change hchange,
        hhooked.of_change hchange hbalanced hprepared⟩) hrun
  exact hholds.2

end Fresh

/-- In a run from a context in which nothing is registered yet, the hook of every plugin is started
once, before any other code goes on, whatever becomes of it; and it has ended before a command of
the plugin is started. Code finds every plugin started and every active entry registered, at first
and after each of its operations, those that fail included. The end of the run is what the engine
comes to. -/
theorem hooks_run_once {η ω α : Type} [Reads ω] [Offers η] [Handler η ω] (rootPath baseDir : Text)
    (plugins : List (Text × η)) (world : ω) (script : Hook η ω α) {n : Nat} {past : List Event}
    {m : Moment η ω α}
    (hrun : (start script (.new rootPath baseDir (.offering plugins) world)).after n =
      some (past, m)) :
    (m.isDiscovery = false →
      m.ctx.Settled ∧
      (∀ handle ∈ m.ctx.registry.handles, past.count (.starts (.hook handle.name)) = 1) ∧
      ∀ (depth : Nat) (ctx' : Context η ω),
        (∀ result, m.ctx.settle depth = some (result, ctx') → ctx'.Settled) ∧
        ∀ {β : Type} (operations : Hook η ω β) (b : β),
          m.ctx.run depth operations = some (b, ctx') → ctx'.Settled) ∧
    (∀ name, past.count (.starts (.hook name)) ≤ 1 ∧
      (.starts (.hook name) ∈ past →
        m.ctx.registry.contains name ∧ (.ends (.hook name) ∈ past ∨ .hook name ∈ m.jobs))) ∧
    (∀ before rest name method, past = before ++ .starts (.command name method) :: rest →
      .ends (.hook name) ∈ before) ∧
    (∀ (a : α) (ctx' : Context η ω),
      (∃ depth, (Context.new rootPath baseDir (.offering plugins) world).run depth script =
          some (a, ctx')) ↔
        (start script (.new rootPath baseDir (.offering plugins) world)).Leads (ended a ctx')) := by
  obtain ⟨hprepared, hhooked⟩ := hooked_of_after hrun
  refine ⟨fun hcode => ⟨hprepared.settled hcode, fun handle hmem => ?_, ?_⟩, ?_,
    hhooked.first, fun a ctx' => Context.run_eq_some_iff_leads⟩
  · have hstarted := (hprepared.settled hcode).1 handle hmem
    rw [hhooked.once, if_pos]
    rw [Registry.isStarted, snapshot, Registry.lookup_of_mem hmem]
    exact hstarted
  · intro depth ctx'
    exact ⟨fun _ hsettle => hprepared.settled_of_run hcode (Context.run_settle hsettle),
      fun _ _ hoperations => hprepared.settled_of_run hcode hoperations⟩
  · intro name
    have honce := hhooked.once name
    refine ⟨?_, fun hmem => ?_⟩
    · rw [honce]
      split
      · exact Nat.le_refl 1
      · exact Nat.zero_le 1
    · have hstarted : m.ctx.registry.isStarted name := by
        have hpos := List.count_pos_iff.mpr hmem
        rw [honce] at hpos
        split at hpos
        · assumption
        · cases hpos
      exact ⟨Registry.contains_of_isStarted hstarted, hhooked.ended name hstarted⟩

/-- The hook of a plugin loads another plugin, whose hook fails, and itself, and fails as well. A
command of the plugin finds both plugins started once, and its own hook at an end. -/
theorem hooks_run_once_failing_hooks :
    let second : Guest := .bound ⟨['B'], ⟨[]⟩, .new [⟨.fail ['C'], false⟩]⟩
    let first : Guest := .bound ⟨['A'], ⟨[(['x'], .value)]⟩,
      .new [⟨.load ['B'], true⟩, ⟨.load ['A'], true⟩, ⟨.fail ['C'], false⟩]⟩
    let script : Hook Guest (Noted Shelf) (Except RenderError Text) :=
      .load ['A'] fun _ => .render ['{', '{', 'A', '.', 'x', '}', '}'] .done
    ∃ before m,
      (start script (.new Context.defaultRoot Context.defaultBase
        (.offering [(['A'], first), (['B'], second)]) ⟨⟨[]⟩, []⟩)).after 14 =
          some (before ++ [Event.starts (.command ['A'] ['x'])], m) ∧
      m.jobs = [.command ['A'] ['x']] ∧ m.ctx.registry.names = [['A'], ['B']] ∧
      (∀ handle ∈ m.ctx.registry.handles, handle.initialized ∧
        (before ++ [Event.starts (.command ['A'] ['x'])]).count (.starts (.hook handle.name)) = 1) ∧
      Event.ends (.hook ['A']) ∈ before := by
  intro second first script
  have hreach : ((start script (.new Context.defaultRoot Context.defaultBase
      (.offering [(['A'], first), (['B'], second)]) ⟨⟨[]⟩, []⟩)).after 14).map
        (fun reached => (reached.1, reached.2.isDiscovery, reached.2.jobs,
          reached.2.ctx.registry.names)) =
      some ([.starts (.hook ['A']), .starts (.hook ['B']), .ends (.hook ['B']),
          .ends (.hook ['A'])] ++ [.starts (.command ['A'] ['x'])],
        false, [.command ['A'] ['x']], [['A'], ['B']]) := by decide +kernel
  obtain ⟨⟨past, m⟩, hrun, hreached⟩ := Option.map_eq_some_iff.mp hreach
  simp only [Prod.mk.injEq] at hreached
  obtain ⟨rfl, hcode, hjobs, hnames⟩ := hreached
  obtain ⟨hsettled, -, hfirst, -⟩ := hooks_run_once _ _ _ _ script hrun
  obtain ⟨⟨hinitialized, -⟩, honce, -⟩ := hsettled hcode
  exact ⟨_, m, hrun, hjobs, hnames,
    fun handle hmem => ⟨hinitialized handle hmem, honce handle hmem⟩,
    hfirst _ [] _ _ rfl⟩

end Stencil
