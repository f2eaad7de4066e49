import Stencil.Files.Shelf
import Stencil.Proofs.Plugin.Counter
import Stencil.Proofs.Run.History

namespace Stencil

namespace Turn

variable {η ω : Type}

/-- How often a job has ended. -/
def endings (turns : List (Turn η)) (job : Job) : Nat :=
  (turns.filterMap event?).count (.ends job)

theorem endings_append (turns added : List (Turn η)) (job : Job) :
    endings (turns ++ added) job = endings turns job + endings added job := by
  rw [endings, List.filterMap_append, List.count_append]
  rfl

theorem endings_of_name_ne {job : Job} {turn : Turn η} (hname : turn.name ≠ job.plugin) :
    endings [turn] job = 0 := by
  cases turn with
  | supplied name plugin => rfl
  | starts job' plugin => rfl
  | ends job' plugin finish =>
    refine List.count_eq_zero.mpr fun hmem => hname ?_
    cases List.mem_singleton.mp hmem
    rfl

theorem endings_ends (job job' : Job) (plugin : η) (finish : Finish) :
    endings [.ends job' plugin finish] job = if job' = job then 1 else 0 := by
  by_cases hjob : job' = job
  · simp [endings, event?, hjob]
  · simp [endings, event?, hjob]

/-- An ending that is told of is that of a turn. -/
theorem exists_ends_of_events {turns : List (Turn η)} {before after : List Event} {job : Job}
    (hevents : turns.filterMap event? = before ++ .ends job :: after) :
    ∃ earlier plugin finish rest, turns = earlier ++ .ends job plugin finish :: rest ∧
      earlier.filterMap event? = before := by
  obtain ⟨earlier, later, rfl, hbefore, hafter⟩ := List.filterMap_eq_append_iff.mp hevents
  obtain ⟨silent, turn, rest, rfl, hsilent, hturn, -⟩ := List.filterMap_eq_cons_iff.mp hafter
  cases turn with
  | supplied name plugin => cases hturn
  | starts job' plugin => cases hturn
  | ends job' plugin finish =>
    cases hturn
    refine ⟨earlier ++ silent, plugin, finish, rest, by simp, ?_⟩
    rw [List.filterMap_append, hbefore, List.filterMap_eq_nil_iff.mpr hsilent, List.append_nil]

variable [Offers η] [Handler η ω]

/-- Plugins with a command that moves a counter on and answers it; nothing else that is run on them
moves it. -/
structure Counts (ω : Type) [Handler η ω] (name method : Text) (count : η → Nat)
    (valid : η → Prop) : Prop where
  command : ∀ {plugin plugin' : η} {finish : Finish}, valid plugin →
    Becomes ω (.command name method) plugin plugin' finish →
    valid plugin' ∧ count plugin' = count plugin + 1 ∧
      finish = .command (.ok (Text.ofNat (count plugin')))
  others : ∀ {job : Job} {plugin plugin' : η} {finish : Finish}, valid plugin → job.plugin = name →
    job ≠ .command name method → Becomes ω job plugin plugin' finish →
    valid plugin' ∧ count plugin' = count plugin

section Counts

variable {name method : Text} {count : η → Nat} {valid : η → Prop} {turns : List (Turn η)}

/-- The counter of a plugin is the number of times that the command has ended. -/
theorem Relay.count_eq (hrelay : Relay ω turns) (hcounts : Counts ω name method count valid)
    (hsupplied : ∀ plugin, .supplied name plugin ∈ turns → valid plugin ∧ count plugin = 0) :
    (∀ turn, last turns name = some turn → valid turn.plugin ∧
      count turn.plugin = endings turns (.command name method)) ∧
    (last turns name = none → endings turns (.command name method) = 0) := by
  induction hrelay with
  | nil => exact ⟨fun _ hlast => (by cases hlast), fun _ => rfl⟩
  | @snoc past turn hpast hfollows ih =>
    obtain ⟨hlatest, hnone⟩ := ih fun plugin hmem => hsupplied plugin (List.mem_append_left _ hmem)
    rw [last_append_singleton, endings_append]
    by_cases hname : turn.name = name
    · rw [if_pos hname]
      refine ⟨?_, fun hlast => by cases hlast⟩
      rintro _ ⟨⟩
      cases turn with
      | supplied name' plugin =>
        obtain rfl : name' = name := hname
        obtain ⟨hvalid, hzero⟩ := hsupplied plugin (List.mem_append_right _ List.mem_cons_self)
        rw [hnone hfollows]
        exact ⟨hvalid, hzero⟩
      | starts job plugin =>
        obtain rfl : job.plugin = name := hname
        obtain ⟨latest, hlast, hleft⟩ := Option.bind_eq_some_iff.mp hfollows
        have hstill := hlatest latest hlast
        rw [left_eq_some hleft] at hstill
        exact hstill
      | ends job plugin finish =>
        obtain rfl : job.plugin = name := hname
        obtain ⟨plugin', hlast, hbecomes⟩ := hfollows
        obtain ⟨hvalid, hcount⟩ := hlatest _ hlast
        by_cases hjob : job = .command job.plugin method
        · rw [hjob] at hbecomes
          obtain ⟨hvalid', hmoved, -⟩ := hcounts.command hvalid hbecomes
          refine ⟨hvalid', ?_⟩
          rw [Turn.plugin, hmoved, hcount, endings_ends, if_pos hjob]
        · obtain ⟨hvalid', hkept⟩ := hcounts.others hvalid rfl hjob hbecomes
          refine ⟨hvalid', ?_⟩
          rw [Turn.plugin, hkept, hcount, endings_ends, if_neg hjob, Nat.add_zero]
    · rw [if_neg hname, endings_of_name_ne hname]
      exact ⟨hlatest, hnone⟩

/-- The command answers how many times it has been executed. -/
theorem Relay.answer_eq (hrelay : Relay ω turns) (hcounts : Counts ω name method count valid)
    (hsupplied : ∀ plugin, .supplied name plugin ∈ turns → valid plugin ∧ count plugin = 0)
    {before rest : List (Turn η)} {plugin : η} {finish : Finish}
    (hsplit : turns = before ++ .ends (.command name method) plugin finish :: rest) :
    finish = .command (.ok (Text.ofNat (endings before (.command name method) + 1))) := by
  obtain ⟨hbefore, plugin', hlast, hbecomes⟩ := hrelay.of_split hsplit
  have hsupplied' : ∀ plugin, .supplied name plugin ∈ before → valid plugin ∧ count plugin = 0 := by
    intro plugin hmem
    apply hsupplied plugin
    rw [hsplit]
    exact List.mem_append_left _ hmem
  obtain ⟨hvalid, hcount⟩ := (hbefore.count_eq hcounts hsupplied').1 _ hlast
  obtain ⟨-, hmoved, hfinish⟩ := hcounts.command hvalid hbecomes
  rw [hfinish, hmoved, hcount]

end Counts

end Turn

/-- A plugin made from a table in which one command counts has a command that counts. -/
theorem Guest.counts {ω : Type} [Journal ω] (name : Text) {method : Text}
    {commands : CommandTable Behaviour} (hcommand : commands.get method = some .count)
    (hothers : ∀ other, commands.get other = some .count → other = method) :
    Turn.Counts ω name method Guest.count
      fun guest => ∃ plugin, guest = .bound plugin ∧ plugin.commands = commands where
  command := by
    rintro _ plugin' _ ⟨plugin, rfl, rfl⟩ (_ | hend)
    obtain ⟨state, rfl, hstate⟩ := exists_of_mayEnd_invoke hcommand hend
    obtain ⟨hmoved, rfl⟩ := Scripted.count_of_mayEnd_count hstate
    refine ⟨⟨_, rfl, rfl⟩, hmoved, ?_⟩
    rw [Guest.count, hmoved]
  others := by
    rintro job _ plugin' finish ⟨plugin, rfl, rfl⟩ hname hjob hbecomes
    cases hbecomes with
    | hook hend =>
      rw [eq_of_mayEnd_loaded hend]
      exact ⟨⟨plugin, rfl, rfl⟩, rfl⟩
    | @command name' other params _ _ result hend =>
      obtain rfl : name' = name := hname
      cases hbehaviour : plugin.commands.get other with
      | none =>
        rw [eq_of_mayEnd_invoke hbehaviour hend]
        exact ⟨⟨plugin, rfl, rfl⟩, rfl⟩
      | some behaviour =>
        obtain ⟨state, rfl, hstate⟩ := exists_of_mayEnd_invoke hbehaviour hend
        refine ⟨⟨_, rfl, rfl⟩, Scripted.count_of_mayEnd ?_ hstate⟩
        rintro rfl
        exact hjob (by rw [hothers other hbehaviour])

open Moment Turn

/-- In a run from a context in which nothing is registered yet, every hook and every command of a
plugin is started on what the one before it has left, failed or not, the first on the plugin as it
was supplied, and no other is run on the plugin until it has ended; what is in the place of a name
is what was left last. So a command that counts its executions answers the number of the execution,
in whatever renders these are. The end of the run is what the engine comes to. -/
theorem turns_follow {η ω α : Type} [Reads ω] [Offers η] [Handler η ω] (rootPath baseDir : Text)
    (catalog : Catalog η) (world : ω) (script : Hook η ω α) {n : Nat} {past : List Event}
    {m : Moment η ω α}
    (hrun : (start script (.new rootPath baseDir catalog world)).after n = some (past, m)) :
    let first := start script (.new rootPath baseDir catalog world)
    ((first.turns n).filterMap Turn.event? = past ∧
      ∀ k before m₁ event m₂ job plugin, first.after k = some (before, m₁) →
        m₁.step = some (event, m₂) → m₁.turn? = some (.starts job plugin) →
        m₂.Begins job plugin) ∧
    (∀ before turn rest, first.turns n = before ++ turn :: rest → turn.Follows ω before) ∧
    (∀ name, m.ctx.registry.resting name = (last (first.turns n) name).bind left) ∧
    (∀ name plugin, .supplied name plugin ∈ first.turns n →
      catalog.Offers name plugin ∨
      ∃ k < n, ∃ before m₁, first.after k = some (before, m₁) ∧ m₁.Registers name plugin) ∧
    (∀ name method count valid, Counts ω name method count valid →
      (∀ plugin, .supplied name plugin ∈ first.turns n → valid plugin ∧ count plugin = 0) →
      ∀ before plugin finish rest,
        first.turns n = before ++ .ends (.command name method) plugin finish :: rest →
        finish = .command (.ok (Text.ofNat (endings before (.command name method) + 1)))) ∧
    (∀ (a : α) (ctx' : Context η ω),
      (∃ depth, (Context.new rootPath baseDir catalog world).run depth script = some (a, ctx')) ↔
        first.Leads (ended a ctx')) := by
  intro first
  have htold := told_of_after hrun
  have hrelay := htold.tell.relay
  refine ⟨⟨events_of_after hrun, ?_⟩, fun before turn rest hsplit => (hrelay.of_split hsplit).2,
    htold.tell.resting, fun name plugin hmem => provided_of_after hrun hmem, ?_,
    fun a ctx' => Context.run_eq_some_iff_leads⟩
  · intro k before m₁ event m₂ job plugin _ hstep hturn
    have hmove := move_of_step hstep
    rw [hturn] at hmove
    cases hmove with
    | starts hbegins => exact hbegins
  · intro name method count valid hcounts hsupplied before plugin finish rest hsplit
    exact hrelay.answer_eq hcounts hsupplied hsplit

/-- A plugin counts the executions of its command: the hook of another plugin renders a directive
for it, and so does the host after that, and is answered the second number. -/
theorem turns_follow_counter :
    let text : Text := ['{', '{', 'A', '.', 'c', '}', '}']
    let counter : Guest := .bound ⟨['A'], ⟨[(['c'], .count)]⟩, .new []⟩
    let reader : Guest := .bound ⟨['B'], ⟨[]⟩, .new [⟨.load ['A'], true⟩, ⟨.render text, true⟩]⟩
    let script : Hook Guest (Noted Shelf) (Except RenderError Text) :=
      .load ['B'] fun _ => .render text .done
    let first := start script (.new Context.defaultRoot Context.defaultBase
      (.offering [(['A'], counter), (['B'], reader)]) ⟨⟨[]⟩, []⟩)
    ∃ before plugin rest,
      first.turns 23 =
        before ++ .ends (.command ['A'] ['c']) plugin (.command (.ok (Text.ofNat 2))) :: rest ∧
      endings before (.command ['A'] ['c']) = 1 := by
  intro text counter reader script first
  have hreach : (first.after 23).map (·.1) =
      some ([.starts (.hook ['B']), .starts (.hook ['A']), .ends (.hook ['A']),
        .starts (.command ['A'] ['c']), .ends (.command ['A'] ['c']), .ends (.hook ['B']),
        .starts (.command ['A'] ['c'])] ++ [.ends (.command ['A'] ['c'])]) := by decide +kernel
  obtain ⟨⟨past, m⟩, hrun, rfl⟩ := Option.map_eq_some_iff.mp hreach
  obtain ⟨⟨hevents, -⟩, -, -, -, hanswers, -⟩ := turns_follow _ _ _ _ script hrun
  obtain ⟨before, plugin, finish, rest, hsplit, hbefore⟩ := exists_ends_of_events hevents
  have hcount : endings before (.command ['A'] ['c']) = 1 := by
    rw [endings, hbefore]
    rfl
  have hfresh : (first.turns 23).all (fun turn => match turn with
      | .supplied name (.bound plugin) =>
        name ≠ ['A'] || plugin.commands.entries = [(['c'], .count)] && plugin.state.count = 0
      | .supplied name _ => name ≠ ['A']
      | _ => true) = true := by decide +kernel
  have hcounts : Counts (Noted Shelf) ['A'] ['c'] Guest.count fun guest =>
      ∃ plugin, guest = .bound plugin ∧ plugin.commands = ⟨[(['c'], .count)]⟩ := by
    refine Guest.counts ['A'] rfl fun other hother => ?_
    by_cases hname : other = ['c']
    · exact hname
    · have hbeq : (other == ['c']) = false := beq_eq_false_iff_ne.mpr hname
      simp [CommandTable.get, List.lookup_cons, hbeq] at hother
  have hanswer := hanswers ['A'] ['c'] Guest.count _ hcounts (fun guest hmem => ?_) _ _ _ _ hsplit
  · rw [hanswer, hcount] at hsplit
    exact ⟨before, plugin, rest, hsplit, hcount⟩
  · have hguest := List.all_eq_true.mp hfresh _ hmem
    cases guest with
    | bound plugin =>
      simp at hguest
      obtain ⟨hentries, hzero⟩ := hguest
      refine ⟨⟨plugin, rfl, ?_⟩, hzero⟩
      rw [← hentries]
    | eager plugin => simp at hguest
    | raw methods => simp at hguest

end Stencil
