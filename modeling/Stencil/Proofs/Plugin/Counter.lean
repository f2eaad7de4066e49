import Stencil.Plugin.Scripted
import Stencil.Proofs.Plugin.Endings

namespace Stencil

namespace Scripted

variable {η ω : Type} {fresh : Text → η} {state state' : Scripted η} {params : Option ParamSet}
  {result : Except PluginError Text}

theorem mayEnd_withParam {key : Text}
    {command : Text → Command η ω (Scripted η × Except PluginError Text)}
    (hend : (withParam state params key command).MayEnd (state', result)) :
    state' = state ∨ ∃ text, (command text).MayEnd (state', result) := by
  rw [withParam] at hend
  cases hparam : required params key with
  | ok text =>
    rw [hparam] at hend
    exact .inr ⟨text, hend⟩
  | error cause =>
    rw [hparam] at hend
    simp at hend
    exact .inl hend.1

variable [Journal ω]

theorem count_of_mayEnd_count
    (hend : (command fresh .count state params :
      Command η ω (Scripted η × Except PluginError Text)).MayEnd (state', result)) :
    state'.count = state.count + 1 ∧ result = .ok (Text.ofNat (state.count + 1)) := by
  simp [command, note] at hend
  obtain ⟨rfl, rfl⟩ := hend
  exact ⟨rfl, rfl⟩

theorem count_of_mayEnd {behaviour : Behaviour} (hbehaviour : behaviour ≠ .count)
    (hend : (command fresh behaviour state params :
      Command η ω (Scripted η × Except PluginError Text)).MayEnd (state', result)) :
    state'.count = state.count := by
  cases behaviour with
  | count => exact absurd rfl hbehaviour
  | value | args | echo | fail | get | root | names =>
    simp [command] at hend
    rw [hend.1]
  | require | has | set | base | render | read =>
    rcases mayEnd_withParam hend with rfl | ⟨text, hend⟩
    · rfl
    · simp at hend
      rw [hend.1]
  | load =>
    rcases mayEnd_withParam hend with rfl | ⟨text, hend⟩
    · rfl
    · obtain ⟨cause | _, hend⟩ := Script.mayEnd_load_iff.mp hend
      · simp at hend
        rw [hend.1]
      · simp at hend
        rw [hend.1]
  | spawn =>
    rcases mayEnd_withParam hend with rfl | ⟨text, hend⟩
    · rfl
    · obtain ⟨cause | _, hend⟩ := Script.mayEnd_register_iff.mp hend
      · simp at hend
        rw [hend.1]
      · simp at hend
        rw [hend.1]
  | info =>
    rcases mayEnd_withParam hend with rfl | ⟨text, hend⟩
    · rfl
    · obtain ⟨view, hend⟩ := Script.mayEnd_observe_iff.mp hend
      split at hend
      · simp at hend
        rw [hend.1]
      · simp at hend
        rw [hend.1]

theorem state_of_mayEnd_loaded {result : Except RenderError Unit}
    (hend : (loaded state : Hook η ω (Scripted η × Except RenderError Unit)).MayEnd
      (state', result)) : state' = state := by
  rw [loaded] at hend
  obtain ⟨_, -, hactions⟩ := Script.mayEnd_bind_iff.mp hend
  obtain ⟨result', -, hpure⟩ := Script.mayEnd_bind_iff.mp hactions
  cases Script.mayEnd_pure_iff.mp hpure
  rfl

end Scripted

namespace Guest

variable {ω : Type} [Journal ω] {plugin : Bound Behaviour (Scripted Guest)} {guest' : Guest}

/-- The counter of a plugin that is made from a command table. -/
def count : Guest → Nat
  | bound plugin => plugin.state.count
  | eager plugin => plugin.state.count
  | raw _ => 0

section Invoke

variable {method : Text} {params : Option ParamSet} {result : Except PluginError Text}

theorem exists_of_mayEnd_invoke {behaviour : Behaviour}
    (hcommand : plugin.commands.get method = some behaviour)
    (hend : (invoke (.bound plugin) method params :
      Command Guest ω (Guest × Except PluginError Text)).MayEnd (guest', result)) :
    ∃ state, guest' = .bound { plugin with state } ∧
      (Scripted.command plain behaviour plugin.state params :
        Command Guest ω (Scripted Guest × Except PluginError Text)).MayEnd (state, result) := by
  rw [invoke] at hend
  obtain ⟨⟨plugin', result'⟩, hplugin, hguest⟩ := Script.mayEnd_bind_iff.mp hend
  cases Script.mayEnd_pure_iff.mp hguest
  rw [Bound.invoke, hcommand] at hplugin
  obtain ⟨⟨state, result''⟩, hstate, hbound⟩ := Script.mayEnd_bind_iff.mp hplugin
  cases Script.mayEnd_pure_iff.mp hbound
  exact ⟨state, rfl, hstate⟩

theorem eq_of_mayEnd_invoke (hcommand : plugin.commands.get method = none)
    (hend : (invoke (.bound plugin) method params :
      Command Guest ω (Guest × Except PluginError Text)).MayEnd (guest', result)) :
    guest' = .bound plugin := by
  rw [invoke] at hend
  obtain ⟨⟨plugin', result'⟩, hplugin, hguest⟩ := Script.mayEnd_bind_iff.mp hend
  cases Script.mayEnd_pure_iff.mp hguest
  rw [Bound.invoke, hcommand] at hplugin
  cases Script.mayEnd_pure_iff.mp hplugin
  rfl

end Invoke

theorem eq_of_mayEnd_loaded {result : Except RenderError Unit}
    (hend : (loaded (.bound plugin) : Hook Guest ω (Guest × Except RenderError Unit)).MayEnd
      (guest', result)) : guest' = .bound plugin := by
  rw [loaded] at hend
  obtain ⟨⟨plugin', result'⟩, hplugin, hguest⟩ := Script.mayEnd_bind_iff.mp hend
  cases Script.mayEnd_pure_iff.mp hguest
  rw [Bound.loaded] at hplugin
  obtain ⟨⟨state, result''⟩, hstate, hbound⟩ := Script.mayEnd_bind_iff.mp hplugin
  cases Script.mayEnd_pure_iff.mp hbound
  rw [Scripted.state_of_mayEnd_loaded hstate]

end Guest

end Stencil
