import Stencil.Proofs.Plugin.Endings
import Stencil.Proofs.Registry.Growth
import Stencil.Proofs.Run.Moment

namespace Stencil

/-- How a hook or a command ended. -/
inductive Finish
  | hook (result : Except RenderError Unit)
  | command (result : Except PluginError Text)

/-- Whether a hook or a command that is run on a plugin may end so, and leave the plugin as it is
after it. -/
inductive Becomes {η : Type} (ω : Type) [Offers η] [Handler η ω] : Job → η → η → Finish → Prop
  | hook {name : Text} {plugin plugin' : η} {result : Except RenderError Unit}
      (hend : (Handler.loaded plugin : Hook η ω (η × Except RenderError Unit)).MayEnd
        (plugin', result)) :
      Becomes ω (.hook name) plugin plugin' (.hook result)
  | command {name method : Text} {params : Option ParamSet} {plugin plugin' : η}
      {result : Except PluginError Text}
      (hend : (Handler.invoke plugin method params :
        Command η ω (η × Except PluginError Text)).MayEnd (plugin', result)) :
      Becomes ω (.command name method) plugin plugin' (.command result)

/-- Something that happens to a plugin in a run, and the plugin as it is at that time. -/
inductive Turn (η : Type)
  /-- the plugin is registered -/
  | supplied (name : Text) (plugin : η)
  /-- a hook or a command is started on the plugin -/
  | starts (job : Job) (plugin : η)
  /-- a hook or a command has ended and leaves the plugin -/
  | ends (job : Job) (plugin : η) (finish : Finish)

/-- The turn in which a handle was registered. -/
def Handle.supplied {η : Type} (handle : Handle η) : Option (Turn η) :=
  handle.plugin.map (.supplied handle.name)

namespace Turn

variable {η : Type}

/-- The name of the plugin. -/
def name : Turn η → Text
  | supplied name _ => name
  | starts job _ => job.plugin
  | ends job _ _ => job.plugin

/-- The plugin as it is at that time. -/
def plugin : Turn η → η
  | supplied _ plugin => plugin
  | starts _ plugin => plugin
  | ends _ plugin _ => plugin

/-- What is told of it in a run. -/
def event? : Turn η → Option Event
  | supplied _ _ => none
  | starts job _ => some (.starts job)
  | ends job _ _ => some (.ends job)

/-- The plugin that is in its place after it. -/
def left : Turn η → Option η
  | supplied _ plugin => some plugin
  | starts _ _ => none
  | ends _ plugin _ => some plugin

theorem left_eq_some {turn : Turn η} {plugin : η} (hleft : turn.left = some plugin) :
    turn.plugin = plugin := by
  cases turn with
  | supplied name plugin' => exact Option.some.inj hleft
  | starts job plugin' => cases hleft
  | ends job plugin' finish => exact Option.some.inj hleft

/-- The latest turn of a name. -/
def last (turns : List (Turn η)) (name : Text) : Option (Turn η) :=
  (turns.filter fun turn => turn.name = name).getLast?

theorem last_append_singleton (turns : List (Turn η)) (turn : Turn η) (n : Text) :
    last (turns ++ [turn]) n = if turn.name = n then some turn else last turns n := by
  by_cases hname : turn.name = n
  · simp [last, List.filter_append, hname]
  · simp [last, List.filter_append, hname]

theorem last_append_of_forall_ne {turns added : List (Turn η)} {n : Text}
    (hadded : ∀ turn ∈ added, turn.name ≠ n) : last (turns ++ added) n = last turns n := by
  have hnone : added.filter (fun turn => turn.name = n) = [] := by
    simpa [List.filter_eq_nil_iff] using hadded
  rw [last, List.filter_append, hnone, List.append_nil, last]

variable [Offers η]

/-- Whether a turn follows from those before it. A plugin is supplied under a name that is new; a
hook or a command is started on the plugin that the latest turn of its name has left, and what ends
is what was started last, with what the plugin may have become. -/
def Follows (ω : Type) [Handler η ω] (past : List (Turn η)) : Turn η → Prop
  | supplied name _ => last past name = none
  | starts job plugin => (last past job.plugin).bind left = some plugin
  | ends job plugin' finish =>
    ∃ plugin, last past job.plugin = some (starts job plugin) ∧ Becomes ω job plugin plugin' finish

/-- Turns each of which follows from those before it. -/
inductive Relay (ω : Type) [Handler η ω] : List (Turn η) → Prop
  | nil : Relay ω []
  | snoc {past : List (Turn η)} {turn : Turn η} (hpast : Relay ω past)
      (hfollows : turn.Follows ω past) : Relay ω (past ++ [turn])

variable {ω : Type} [Handler η ω]

theorem Relay.of_split {turns : List (Turn η)} (hrelay : Relay ω turns)
    {before rest : List (Turn η)} {turn : Turn η} (hsplit : turns = before ++ turn :: rest) :
    Relay ω before ∧ turn.Follows ω before := by
  induction hrelay generalizing rest with
  | nil => simp at hsplit
  | @snoc past latest hpast hfollows ih =>
    rcases List.eq_nil_or_concat rest with rfl | ⟨rest, other, rfl⟩
    · obtain ⟨rfl, heq⟩ := List.append_inj' hsplit rfl
      rw [← List.singleton_inj.mp heq]
      exact ⟨hpast, hfollows⟩
    · rw [List.concat_eq_append, ← List.cons_append, ← List.append_assoc] at hsplit
      exact ih (List.append_inj' hsplit rfl).1

/-- Turns tell what is in the places of a registry. -/
structure Tell (ω : Type) [Handler η ω] (turns : List (Turn η)) (registry : Registry η) :
    Prop where
  relay : Relay ω turns
  resting : ∀ n, registry.resting n = (last turns n).bind left
  contains : ∀ n, registry.contains n = (last turns n).isSome

namespace Tell

variable {turns : List (Turn η)} {registry registry' : Registry η}

theorem snoc {turn : Turn η} (htell : Tell ω turns registry) (hfollows : turn.Follows ω turns)
    (hresting : ∀ n, registry'.resting n = if n = turn.name then turn.left else registry.resting n)
    (hcontains : ∀ n, registry'.contains n ↔ n = turn.name ∨ registry.contains n) :
    Tell ω (turns ++ [turn]) registry' where
  relay := htell.relay.snoc hfollows
  resting := by
    intro n
    rw [hresting, last_append_singleton]
    by_cases hn : n = turn.name
    · rw [if_pos hn, if_pos hn.symm, Option.bind_some]
    · rw [if_neg hn, if_neg (Ne.symm hn)]
      exact htell.resting n
  contains := by
    intro n
    rw [Bool.eq_iff_iff, hcontains, last_append_singleton]
    by_cases hn : n = turn.name
    · simp [hn]
    · rw [if_neg (Ne.symm hn), ← htell.contains]
      simp [hn]

/-- A turn of a plugin that is registered leaves all names as they are. -/
theorem snoc_of_contains {turn : Turn η} (htell : Tell ω turns registry)
    (hfollows : turn.Follows ω turns) (hthere : registry.contains turn.name)
    (hnames : registry'.names = registry.names)
    (hresting : ∀ n, registry'.resting n =
      if n = turn.name then turn.left else registry.resting n) :
    Tell ω (turns ++ [turn]) registry' := by
  refine htell.snoc hfollows hresting fun n => ?_
  rw [Registry.contains_iff_mem_names, hnames, ← Registry.contains_iff_mem_names]
  constructor
  · exact .inr
  · rintro (rfl | hcontains)
    · exact hthere
    · exact hcontains

theorem supplied {name : Text} {plugin : η} (htell : Tell ω turns registry)
    (hregister : registry.register? name plugin = some registry') :
    Tell ω (turns ++ [.supplied name plugin]) registry' := by
  have hfree := (Registry.register?_eq_some_iff.mp hregister).1
  refine htell.snoc ?_ (Registry.resting_register? hregister) fun n => ?_
  · rw [htell.contains, Option.isSome_eq_false_iff, Option.isNone_iff_eq_none] at hfree
    exact hfree
  · rw [(Registry.grown_of_register? hregister).contains, List.mem_singleton, or_comm]
    rfl

/-- Handles that are registered under new names are told of by their turns. -/
theorem append {added : List (Handle η)} (htell : Tell ω turns registry)
    (hhandles : registry'.handles = registry.handles ++ added)
    (hadded : ∀ handle ∈ added, ∃ name fresh, handle = ⟨name, some fresh, false⟩) :
    Tell ω (turns ++ added.filterMap Handle.supplied) registry' := by
  induction added generalizing turns registry with
  | nil =>
    rw [List.append_nil] at hhandles
    rw [List.filterMap_nil, List.append_nil, Registry.eq_of_handles_eq hhandles]
    exact htell
  | cons handle added ih =>
    obtain ⟨name, fresh, rfl⟩ := hadded handle List.mem_cons_self
    cases hregister : registry.register? name fresh with
    | none =>
      -- the name would stand in front of the added handle too
      have htaken := Registry.register?_eq_none_iff.mp hregister
      rw [Registry.contains_iff_mem_names] at htaken
      have hnodup := registry'.nodup_names
      rw [Registry.names, hhandles, List.map_append] at hnodup
      exact absurd rfl
        ((List.nodup_append.mp hnodup).2.2 name htaken name List.mem_cons_self)
    | some registry'' =>
      obtain ⟨-, hfirst⟩ := Registry.register?_eq_some_iff.mp hregister
      have hrest := ih (htell.supplied hregister) (by rw [hhandles, hfirst, List.append_cons])
        fun other hother => hadded other (List.mem_cons_of_mem _ hother)
      rw [List.append_assoc] at hrest
      exact hrest

end Tell

end Turn

end Stencil
