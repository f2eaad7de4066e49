import Stencil.Proofs.Run.Busy
import Stencil.Proofs.Run.Moves

namespace Stencil

namespace Balanced

variable {η : Type} {base : Registry η} {s : Snapshot η} {job job' : Job}

theorem contains_of_mem_jobs (hbalanced : Balanced base s) (hjob : job ∈ s.jobs) :
    s.registry.contains job.plugin :=
  Registry.contains_of_isBusy ((hbalanced.busy _).mpr (.inl (List.mem_map_of_mem hjob)))

/-- The jobs that the innermost one is nested in are those of other plugins. -/
theorem plugin_ne_of_mem {jobs : List Job} (hbalanced : Balanced base s)
    (hjobs : s.jobs = job :: jobs) (hjob' : job' ∈ jobs) : job.plugin ≠ job'.plugin := by
  have hrunning := hbalanced.running
  rw [Snapshot.running, hjobs, List.map_cons, List.nodup_cons] at hrunning
  intro heq
  exact hrunning.1 (List.mem_map.mpr ⟨job', hjob', heq.symm⟩)

end Balanced

namespace Moment

variable {η ω α : Type}

/-- The turns in which a move adds plugins. -/
def supplies (m m' : Moment η ω α) : List (Turn η) :=
  (m'.ctx.registry.handles.drop m.ctx.registry.handles.length).filterMap Handle.supplied

theorem supplies_eq_nil {m m' : Moment η ω α}
    (hnames : m'.ctx.registry.names = m.ctx.registry.names) : m.supplies m' = [] := by
  have hlength := congrArg List.length hnames
  rw [Registry.names, Registry.names, List.length_map, List.length_map] at hlength
  rw [supplies, List.drop_eq_nil_of_le (Nat.le_of_eq hlength), List.filterMap_nil]

/-- Nothing is told of the plugins that are added. -/
theorem filterMap_event?_supplies (m m' : Moment η ω α) :
    (m.supplies m').filterMap Turn.event? = [] := by
  rw [supplies, List.filterMap_filterMap, List.filterMap_eq_nil_iff]
  intro handle hmem
  rw [Handle.supplied]
  cases handle.plugin <;> rfl

variable [Offers η]

/-- What is told of a plugin so far agrees with a moment: with what is in the places, and with what
the hooks and commands under way may still end with. -/
structure Told (ω : Type) [Handler η ω] (turns : List (Turn η)) (m : Moment η ω α) : Prop where
  tell : Turn.Tell ω turns m.ctx.registry
  promises : m.Promises fun job plugin finish => (Turn.ends job plugin finish).Follows ω turns

section Step

variable [Handler η ω] {m m' : Moment η ω α} {turn? : Option (Turn η)}

theorem Move.event_eq {event : Option Event} (hmove : Move ω m m' turn?)
    (hchange : Change m.snapshot event m'.snapshot) : event = turn?.bind Turn.event? := by
  rw [hchange.event_eq]
  change Event.between m.jobs m'.jobs = _
  cases hmove with
  | goesOn added hjobs => simp [hjobs]
  | starts hbegins hjobs => simp [hjobs, Turn.event?]
  | ends hjobs => simp [hjobs, Turn.event?]

/-- A promise that was made for a job is not touched by turns of other plugins. -/
theorem Promises.follows {turns added : List (Turn η)}
    (hadded : ∀ job ∈ m.jobs, ∀ turn ∈ added, turn.name ≠ job.plugin)
    (hpromises : m.Promises fun job plugin finish =>
      (Turn.ends job plugin finish).Follows ω turns) :
    m.Promises fun job plugin finish =>
      (Turn.ends job plugin finish).Follows ω (turns ++ added) := by
  refine hpromises.mono fun job hjob plugin finish hfollows => ?_
  obtain ⟨plugin', hlast, hbecomes⟩ := hfollows
  refine ⟨plugin', ?_, hbecomes⟩
  rw [Turn.last_append_of_forall_ne (hadded job hjob)]
  exact hlast

theorem Told.of_move {turns : List (Turn η)} (htold : Told ω turns m) (hmove : Move ω m m' turn?)
    (hbalanced : Balanced .empty m.snapshot) (hbalanced' : Balanced .empty m'.snapshot) :
    Told ω (turns ++ (m.supplies m' ++ turn?.toList)) m' := by
  obtain ⟨htell, hpromises⟩ := htold
  cases hmove with
  | goesOn added hjobs hhandles hadded hgoesOn =>
    have hsupplies : m.supplies m' = added.filterMap Handle.supplied := by
      rw [supplies, hhandles, List.drop_left]
    rw [Option.toList_none, List.append_nil, hsupplies]
    constructor
    · refine htell.append hhandles fun handle hmem => ?_
      obtain ⟨name, plugin, heq, -⟩ := hadded handle hmem
      exact ⟨name, plugin, heq⟩
    · refine (hgoesOn _ hpromises).follows fun job hjob turn hturn heq => ?_
      -- a plugin under way is registered, and what is added has another name
      obtain ⟨handle, hmem, hhandle⟩ := List.mem_filterMap.mp hturn
      obtain ⟨name, plugin, rfl, -⟩ := hadded handle hmem
      cases hhandle
      have hcontains := hbalanced.contains_of_mem_jobs (hjobs ▸ hjob)
      rw [Registry.contains_iff_mem_names, ← heq] at hcontains
      have hnodup := m'.ctx.registry.nodup_names
      rw [Registry.names, hhandles, List.map_append] at hnodup
      exact (List.nodup_append.mp hnodup).2.2 _ hcontains _ (List.mem_map_of_mem hmem) rfl
  | @starts job plugin hbegins hjobs hnames hcontains hplugin hresting hstarts =>
    rw [supplies_eq_nil hnames, List.nil_append, Option.toList_some]
    have hfollows : (Turn.starts job plugin).Follows ω turns := by
      rw [Turn.Follows, ← htell.resting]
      exact hplugin
    refine ⟨htell.snoc_of_contains hfollows hcontains hnames hresting, hstarts _ ?_ ?_⟩
    · refine hpromises.follows fun job' hjob' turn hturn => ?_
      rw [List.mem_singleton.mp hturn]
      exact hbalanced'.plugin_ne_of_mem hjobs hjob'
    · intro plugin' finish hbecomes
      refine ⟨plugin, ?_, hbecomes⟩
      rw [Turn.last_append_singleton, if_pos]
      rfl
  | @ends job plugin finish hjobs hregistry hends =>
    have hnames : m'.ctx.registry.names = m.ctx.registry.names := by
      rw [hregistry, Registry.names_restore]
    have hjob : job ∈ m.snapshot.jobs := by
      change job ∈ m.jobs
      rw [hjobs]
      exact List.mem_cons_self
    have hcontains := hbalanced.contains_of_mem_jobs hjob
    have hresting : ∀ n, m'.ctx.registry.resting n =
        if n = job.plugin then some plugin else m.ctx.registry.resting n := by
      rw [hregistry]
      exact Registry.resting_restore plugin hcontains
    obtain ⟨hfollows, hkept⟩ := hends _ hpromises
    rw [supplies_eq_nil hnames, List.nil_append, Option.toList_some]
    refine ⟨htell.snoc_of_contains hfollows hcontains hnames hresting, ?_⟩
    refine hkept.follows fun job' hjob' turn hturn => ?_
    rw [List.mem_singleton.mp hturn]
    exact hbalanced.plugin_ne_of_mem hjobs hjob'

/-- A plugin that a move adds was on offer in the catalog or was asked for. -/
theorem Move.provides (hmove : Move ω m m' turn?) {name : Text} {plugin : η}
    (hmem : .supplied name plugin ∈ m.supplies m' ++ turn?.toList) :
    m.ctx.catalog.Offers name plugin ∨ m.Registers name plugin := by
  cases hmove with
  | goesOn added hjobs hhandles hadded =>
    rw [Option.toList_none, List.append_nil, supplies, hhandles, List.drop_left] at hmem
    obtain ⟨handle, hhandle, hsupplied⟩ := List.mem_filterMap.mp hmem
    obtain ⟨name', plugin', rfl, hprovided⟩ := hadded handle hhandle
    cases hsupplied
    exact hprovided
  | starts hbegins hjobs hnames =>
    rw [supplies_eq_nil hnames] at hmem
    simp at hmem
  | ends hjobs hregistry =>
    rw [supplies_eq_nil (by rw [hregistry, Registry.names_restore])] at hmem
    simp at hmem

end Step

variable [Reads ω] [Handler η ω]

/-- What the next step does to the plugins. -/
def news (m : Moment η ω α) : List (Turn η) :=
  m.step.elim [] fun (_, m') => m.supplies m' ++ m.turn?.toList

/-- The turns of a run up to the moment after a number of steps. -/
def turns (first : Moment η ω α) : Nat → List (Turn η)
  | 0 => []
  | n + 1 => first.turns n ++ (first.after n).elim [] fun (_, m) => m.news

theorem turns_succ {first m m' : Moment η ω α} {n : Nat} {past : List Event} {event : Option Event}
    (hafter : first.after n = some (past, m)) (hstep : m.step = some (event, m')) :
    first.turns (n + 1) = first.turns n ++ (m.supplies m' ++ m.turn?.toList) := by
  simp only [turns, hafter, news, hstep, Option.elim_some]

theorem turns_isPrefix (first : Moment η ω α) (n k : Nat) :
    first.turns n <+: first.turns (n + k) := by
  induction k with
  | zero => exact List.prefix_rfl
  | succ k ih => exact ih.trans (List.prefix_append _ _)

section Fresh

variable {rootPath baseDir : Text} {catalog : Catalog η} {world : ω} {script : Hook η ω α} {n : Nat}
  {past : List Event} {m : Moment η ω α}

omit [Reads ω] in
theorem told_start : Told ω [] (start script (.new rootPath baseDir catalog world)) where
  tell := ⟨.nil, fun _ => rfl, fun _ => rfl⟩
  promises := trivial

/-- The turns of a run agree with each of its moments. -/
theorem told_of_after
    (hrun : (start script (.new rootPath baseDir catalog world)).after n = some (past, m)) :
    Told ω ((start script (.new rootPath baseDir catalog world)).turns n) m := by
  induction n generalizing past m with
  | zero =>
    cases hrun
    exact told_start
  | succ n ih =>
    have hbalanced' := balanced_of_after hrun
    obtain ⟨past', m₁, event, hpast, hstep, -⟩ := after_succ_eq_some_iff.mp hrun
    have hbalanced := balanced_of_after hpast
    rw [turns_succ hpast hstep]
    exact (ih hpast).of_move (move_of_step hstep) hbalanced hbalanced'

theorem events_of_after
    (hrun : (start script (.new rootPath baseDir catalog world)).after n = some (past, m)) :
    ((start script (.new rootPath baseDir catalog world)).turns n).filterMap Turn.event? =
      past := by
  induction n generalizing past m with
  | zero =>
    cases hrun
    rfl
  | succ n ih =>
    obtain ⟨past', m₁, event, hpast, hstep, rfl⟩ := after_succ_eq_some_iff.mp hrun
    rw [turns_succ hpast hstep, List.filterMap_append, ih hpast, List.filterMap_append,
      filterMap_event?_supplies, List.nil_append,
      (move_of_step hstep).event_eq (change_of_step hstep)]
    cases m₁.turn? with
    | none => rfl
    | some turn => cases hevent : turn.event? <;> simp [hevent]

theorem offers_of_after
    (hrun : (start script (.new rootPath baseDir catalog world)).after n = some (past, m))
    {name : Text} {plugin : η} (hoffers : m.ctx.catalog.Offers name plugin) :
    catalog.Offers name plugin := by
  have hholds := holds_of_after
    (fun s _ => ∀ name plugin, s.catalog.Offers name plugin → catalog.Offers name plugin)
    (fun _ _ => id)
    (fun hchange hkept name plugin hoffered => hkept name plugin (hchange.offers hoffered)) hrun
  exact hholds name plugin hoffers

/-- A plugin that was added in a run was on offer in the catalog, or some code asked for it to be
registered. -/
theorem provided_of_after
    (hrun : (start script (.new rootPath baseDir catalog world)).after n = some (past, m))
    {name : Text} {plugin : η}
    (hmem : .supplied name plugin ∈ (start script (.new rootPath baseDir catalog world)).turns n) :
    catalog.Offers name plugin ∨ ∃ k < n, ∃ before m',
      (start script (.new rootPath baseDir catalog world)).after k = some (before, m') ∧
      m'.Registers name plugin := by
  induction n generalizing past m with
  | zero => cases hmem
  | succ n ih =>
    obtain ⟨past', m₁, event, hpast, hstep, rfl⟩ := after_succ_eq_some_iff.mp hrun
    rw [turns_succ hpast hstep] at hmem
    rcases List.mem_append.mp hmem with hmem | hmem
    · rcases ih hpast hmem with hoffered | ⟨k, hk, hasked⟩
      · exact .inl hoffered
      · exact .inr ⟨k, Nat.lt_succ_of_lt hk, hasked⟩
    · rcases (move_of_step hstep).provides hmem with hoffered | hasked
      · exact .inl (offers_of_after hpast hoffered)
      · exact .inr ⟨n, Nat.lt_succ_self n, past', m₁, hpast, hasked⟩

end Fresh

end Moment

end Stencil
