import Mathlib.Data.List.Basic
import Mathlib.Data.List.Induction
import Stencil.Files.Shelf
import Stencil.Plugin.Scripted
import Stencil.Render.Engine

namespace Stencil

namespace CommandTable

variable {β : Type}

/-- Whether a command is the last one that was added under a name. `later` was added behind it. -/
def LastAdded (additions : List (Text × β)) (name : Text) (command : β)
    (later : List (Text × β)) : Prop :=
  name ∉ later.map Prod.fst ∧ ∃ earlier, additions = earlier ++ (name, command) :: later

theorem ofList_append_singleton (additions : List (Text × β)) (addition : Text × β) :
    ofList (additions ++ [addition]) = (ofList additions).command addition.1 addition.2 := by
  rw [ofList, List.foldl_append]
  rfl

theorem mem_names_iff {table : CommandTable β} {name : Text} :
    name ∈ table.names ↔ (table.get name).isSome = true := by
  rw [names, get, List.lookup_isSome_iff, List.mem_map]
  simp only [beq_iff_eq, @eq_comm _ name]

theorem lookup_filter_of_ne {name added : Text} (hne : name ≠ added) (entries : List (Text × β)) :
    (entries.filter fun entry => entry.1 ≠ added).lookup name = entries.lookup name := by
  induction entries with
  | nil => rfl
  | cons entry entries ih =>
    by_cases hentry : entry.1 = added
    · have hmiss : (name == entry.1) = false := beq_eq_false_iff_ne.mpr (hentry ▸ hne)
      rw [List.filter_cons_of_neg (by simpa using hentry), ih, List.lookup_cons, hmiss]
    · rw [List.filter_cons_of_pos (by simpa using hentry), List.lookup_cons, List.lookup_cons, ih]

section Command

variable (table : CommandTable β) (added : Text) (command : β)

theorem names_command :
    (table.command added command).names = table.names.filter (· ≠ added) ++ [added] := by
  rw [names, CommandTable.command, List.map_append, names, List.filter_map]
  rfl

/-- The name that is added gets the command, and no other name is touched. -/
theorem get_command (name : Text) :
    (table.command added command).get name =
      if name = added then some command else table.get name := by
  rw [get, CommandTable.command, List.lookup_append, get]
  by_cases hname : name = added
  · have hnone : (table.entries.filter fun entry => entry.1 ≠ added).lookup name = none := by
      rw [List.lookup_eq_none_iff]
      intro entry hentry
      have hne : entry.1 ≠ added := by simpa using (List.mem_filter.mp hentry).2
      simpa [hname] using Ne.symm hne
    rw [hnone, if_pos hname, hname, List.lookup_cons_self, Option.none_or]
  · have hmiss : (name == added) = false := beq_eq_false_iff_ne.mpr hname
    rw [lookup_filter_of_ne hname, if_neg hname, List.lookup_cons, hmiss, List.lookup_nil,
      Option.or_none]

end Command

section Additions

variable {additions : List (Text × β)} {added name : Text} {command found : β}
  {later : List (Text × β)}

theorem LastAdded.append_singleton (hlast : LastAdded additions name command later)
    (hne : name ≠ added) (found : β) :
    LastAdded (additions ++ [(added, found)]) name command (later ++ [(added, found)]) := by
  obtain ⟨hnot, earlier, rfl⟩ := hlast
  exact ⟨by simp_all, earlier, by simp⟩

theorem lastAdded_append_self (additions : List (Text × β)) (added : Text) (command : β) :
    LastAdded (additions ++ [(added, command)]) added command [] :=
  ⟨List.not_mem_nil, additions, rfl⟩

/-- One more addition is the last one of its own name and comes behind the last one of every other
name. -/
theorem lastAdded_append_singleton_iff :
    LastAdded (additions ++ [(added, command)]) name found later ↔
      if name = added then found = command ∧ later = []
      else ∃ before, later = before ++ [(added, command)] ∧
        LastAdded additions name found before := by
  constructor
  · rintro ⟨hnot, earlier, hsplit⟩
    rcases List.eq_nil_or_concat' later with rfl | ⟨before, last, rfl⟩
    · obtain ⟨-, heq⟩ := List.append_inj' hsplit rfl
      cases heq
      rw [if_pos rfl]
      exact ⟨rfl, rfl⟩
    · rw [← List.cons_append, ← List.append_assoc] at hsplit
      obtain ⟨hadditions, heq⟩ := List.append_inj' hsplit rfl
      cases heq
      rw [List.map_append, List.mem_append, not_or] at hnot
      rw [if_neg (by simpa using hnot.2)]
      exact ⟨before, rfl, hnot.1, earlier, hadditions⟩
  · split
    · rename_i heq
      rintro ⟨rfl, rfl⟩
      exact heq ▸ lastAdded_append_self additions added found
    · rename_i hne
      rintro ⟨before, rfl, hlast⟩
      exact hlast.append_singleton hne command

theorem get_ofList_eq_some_iff :
    (ofList additions).get name = some command ↔
      ∃ later, LastAdded additions name command later := by
  induction additions using List.reverseRecOn with
  | nil =>
    constructor
    · rintro ⟨⟩
    · rintro ⟨later, -, earlier, hsplit⟩
      simp at hsplit
  | append_singleton additions addition ih =>
    obtain ⟨added, last⟩ := addition
    rw [ofList_append_singleton, get_command]
    simp only [lastAdded_append_singleton_iff]
    by_cases hname : name = added
    · simp [hname, eq_comm]
    · simp only [if_neg hname, ih]
      constructor
      · rintro ⟨later, hlast⟩
        exact ⟨_, later, rfl, hlast⟩
      · rintro ⟨_, later, -, hlast⟩
        exact ⟨later, hlast⟩

theorem mem_names_ofList : name ∈ (ofList additions).names ↔ name ∈ additions.map Prod.fst := by
  induction additions using List.reverseRecOn with
  | nil => rfl
  | append_singleton additions addition ih =>
    rw [ofList_append_singleton, names_command, List.map_append, List.mem_append, List.mem_append,
      List.mem_filter, ih]
    by_cases hname : name = addition.1
    · simp [hname]
    · simp [hname]

/-- The names stand in the order of their last additions. -/
theorem pairwise_names_ofList (additions : List (Text × β)) :
    (ofList additions).names.Pairwise fun name other =>
      ∃ command later, LastAdded additions name command later ∧ other ∈ later.map Prod.fst := by
  induction additions using List.reverseRecOn with
  | nil => exact .nil
  | append_singleton additions addition ih =>
    obtain ⟨added, command⟩ := addition
    rw [ofList_append_singleton, names_command, List.pairwise_append]
    refine ⟨?_, List.pairwise_singleton _ _, ?_⟩
    · refine (ih.filter _).imp_of_mem fun {name other} hname _ hbefore => ?_
      obtain ⟨found, later, hlast, hother⟩ := hbefore
      have hne : name ≠ added := by simpa using (List.mem_filter.mp hname).2
      have hother' : other ∈ (later ++ [(added, command)]).map Prod.fst := by
        rw [List.map_append]
        exact List.mem_append_left _ hother
      exact ⟨found, _, hlast.append_singleton hne command, hother'⟩
    · intro name hname other hother
      obtain ⟨hmem, hne⟩ := List.mem_filter.mp hname
      obtain ⟨found, hget⟩ := Option.isSome_iff_exists.mp (mem_names_iff.mp hmem)
      obtain ⟨later, hlast⟩ := get_ofList_eq_some_iff.mp hget
      cases List.mem_singleton.mp hother
      exact ⟨found, _, hlast.append_singleton (by simpa using hne) command, by simp⟩

theorem nodup_names_ofList (additions : List (Text × β)) : (ofList additions).names.Nodup := by
  refine (pairwise_names_ofList additions).imp ?_
  rintro name other ⟨command, later, hlast, hother⟩ rfl
  exact hlast.1 hother

end Additions

end CommandTable

section Calls

variable {β π ε η ω α γ : Type} [Reads ω] [Offers η]

/-- Code whose ending is only wrapped up does the same and ends with what the wrapping makes of its
ending. -/
theorem Engine.run_bind_pure (below : Engine η ω) (script : Script ε η ω α) (wrap : α → γ)
    (ctx : Context η ω) :
    below.run (script >>= fun a => pure (wrap a)) ctx =
      (below.run script ctx).map fun (a, outputs, ctx) => (wrap a, outputs, ctx) := by
  change below.run (script.andThen fun a => .done (wrap a)) ctx = _
  induction script generalizing ctx with
  | done a => rfl
  | emit output next ih =>
    rw [Script.andThen, run, run, ih, Option.map_map, Option.map_map]
    rfl
  | render text next ih =>
    rw [Script.andThen, run, run, Option.map_bind]
    exact Option.bind_congr fun answered _ => ih _ _
  | load name next ih =>
    rw [Script.andThen, run, run, Option.map_bind]
    exact Option.bind_congr fun answered _ => ih _ _
  | register name plugin next ih =>
    rw [Script.andThen, run, run, Option.map_bind]
    exact Option.bind_congr fun answered _ => ih _ _
  | settle next ih =>
    rw [Script.andThen, run, run, Option.map_bind]
    exact Option.bind_congr fun answered _ => ih _ _
  | setBase dir next ih => exact ih _
  | read path next ih => exact ih _ _
  | observe next ih => exact ih _ _
  | update change next ih => exact ih _

namespace Bound

variable {plugin : Bound β π} {method : Text} {command : β}

theorem accepts_iff_mem_methods :
    plugin.offer.accepts method = true ↔ method ∈ plugin.offer.methods :=
  CommandTable.mem_names_iff.symm

variable (run : β → π → Option ParamSet → Command η ω (π × Except PluginError Text))
  (params : Option ParamSet) (below : Engine η ω) (ctx : Context η ω)

/-- A call runs the command of the table, and nothing else, on the state. -/
theorem run_invoke_of_get (hget : plugin.commands.get method = some command) :
    below.run (plugin.invoke run method params) ctx =
      (below.run (run command plugin.state params) ctx).map fun ((state, result), outputs, ctx) =>
        (({ plugin with state }, result), outputs, ctx) := by
  rw [invoke, hget]
  exact below.run_bind_pure (run command plugin.state params)
    (fun ended : π × Except PluginError Text => ({ plugin with state := ended.1 }, ended.2)) ctx

/-- A call of what is not in the table fails and leaves everything as it was. -/
theorem run_invoke_of_get_eq_none (hget : plugin.commands.get method = none) :
    below.run (plugin.invoke run method params) ctx =
      some ((plugin, .error (.unknownMethod plugin.name method)), [], ctx) := by
  rw [invoke, hget]
  rfl

end Bound

end Calls

namespace CommandTable

variable {β : Type}

/-- However commands are added, the table names each of them once, in the order of the last
additions, and finds the command that was added last. A plugin that is made from the table and bound
to a name lets the calls of these names pass and no others. In every context such a call does what
that command does on the state of the plugin, and a call of any other name fails as an unknown
method of the bound name, and leaves the plugin and the context as they were. -/
theorem commands_follow_additions {π η ω : Type} [Reads ω] [Offers η]
    (additions : List (Text × β)) :
    let table := ofList additions
    (table.names.Nodup ∧ (∀ name, name ∈ table.names ↔ name ∈ additions.map Prod.fst) ∧
      table.names.Pairwise fun name other =>
        ∃ command later, LastAdded additions name command later ∧ other ∈ later.map Prod.fst) ∧
    (∀ name command,
      table.get name = some command ↔ ∃ later, LastAdded additions name command later) ∧
    (∀ name, table.get name = none ↔ name ∉ additions.map Prod.fst) ∧
    ∀ (bound : Text) (state : π) (method : Text),
      let plugin : Bound β π := ⟨bound, table, state⟩
      (plugin.offer.accepts method = true ↔ method ∈ plugin.offer.methods) ∧
      ∀ (run : β → π → Option ParamSet → Command η ω (π × Except PluginError Text))
        (params : Option ParamSet) (below : Engine η ω) (ctx : Context η ω),
        (∀ command later, LastAdded additions method command later →
          below.run (plugin.invoke run method params) ctx =
            (below.run (run command state params) ctx).map fun ((state', result), outputs, ctx') =>
              ((⟨bound, table, state'⟩, result), outputs, ctx')) ∧
        (method ∉ plugin.offer.methods →
          below.run (plugin.invoke run method params) ctx =
            some ((plugin, .error (.unknownMethod bound method)), [], ctx)) := by
  intro table
  have habsent : ∀ name, table.get name = none ↔ name ∉ table.names := fun name => by
    rw [mem_names_iff, Option.not_isSome_iff_eq_none]
  refine ⟨⟨nodup_names_ofList additions, fun name => mem_names_ofList,
    pairwise_names_ofList additions⟩, fun name command => get_ofList_eq_some_iff,
    fun name => (habsent name).trans (not_congr mem_names_ofList), ?_⟩
  intro bound state method plugin
  refine ⟨plugin.accepts_iff_mem_methods, fun run params below ctx => ⟨?_, ?_⟩⟩
  · intro command later hlast
    have hget : plugin.commands.get method = some command :=
      get_ofList_eq_some_iff.mpr ⟨later, hlast⟩
    exact plugin.run_invoke_of_get run params below ctx hget
  · intro hmethod
    exact plugin.run_invoke_of_get_eq_none run params below ctx ((habsent method).mpr hmethod)

/-- The command of a name is replaced. The one in its place answers the state, which a call of an
unknown method leaves alone. -/
theorem commands_follow_additions_replaced :
    let additions : List (Text × Behaviour) := [(['a'], .count), (['b'], .value), (['a'], .get)]
    let plugin : Bound Behaviour (Scripted Guest) := ⟨['P'], ofList additions, ⟨[], 0, ['s']⟩⟩
    let ctx : Context Guest (Noted Shelf) :=
      Context.new Context.defaultRoot Context.defaultBase [] ⟨⟨[]⟩, []⟩
    let call (method : Text) := (engine 0).run
      (plugin.invoke (Scripted.command Guest.plain) method none) ctx
    LastAdded additions ['a'] .get [] ∧ ['c'] ∉ plugin.offer.methods ∧
      plugin.offer.methods = [['b'], ['a']] ∧
      call ['a'] = some ((plugin, .ok ['s']), [], ctx) ∧
      call ['c'] = some ((plugin, .error (.unknownMethod ['P'] ['c'])), [], ctx) := by
  intro additions plugin ctx call
  have hlast : LastAdded additions ['a'] .get [] :=
    ⟨List.not_mem_nil, [(['a'], .count), (['b'], .value)], rfl⟩
  have hmethod : ['c'] ∉ plugin.offer.methods := by decide
  obtain ⟨-, -, -, hplugin⟩ :=
    commands_follow_additions (π := Scripted Guest) (η := Guest) (ω := Noted Shelf) additions
  have hcall := fun method =>
    (hplugin ['P'] plugin.state method).2 (Scripted.command Guest.plain) none (engine 0) ctx
  exact ⟨hlast, hmethod, rfl, (hcall ['a']).1 .get [] hlast, (hcall ['c']).2 hmethod⟩

end CommandTable

end Stencil
