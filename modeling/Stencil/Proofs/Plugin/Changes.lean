import Stencil.Plugin.Scripted

namespace Stencil

namespace Script

variable {ε η η' ω α β : Type} {change : ω → ω}

/-- Whether a change of the world stands anywhere in code. -/
def Changes (change : ω → ω) : Script ε η ω α → Prop
  | done _ => False
  | emit _ next => next.Changes change
  | render _ next => ∃ result, (next result).Changes change
  | load _ next => ∃ result, (next result).Changes change
  | register _ _ next => ∃ result, (next result).Changes change
  | settle next => ∃ result, (next result).Changes change
  | setBase _ next => next.Changes change
  | read _ next => ∃ result, (next result).Changes change
  | observe next => ∃ view, (next view).Changes change
  | update first next => first = change ∨ next.Changes change

theorem changes_andThen {first : Script ε η ω α} {second : α → Script ε η ω β}
    (hchanges : (first.andThen second).Changes change) :
    first.Changes change ∨ ∃ a, (second a).Changes change := by
  induction first with
  | done a => exact .inr ⟨a, hchanges⟩
  | emit output next ih => exact ih hchanges
  | setBase dir next ih => exact ih hchanges
  | update first next ih =>
    rcases hchanges with heq | hchanges
    · exact .inl (.inl heq)
    · exact (ih hchanges).imp_left .inr
  | render text next ih | load name next ih | register name plugin next ih | settle next ih
  | read path next ih | observe next ih =>
    obtain ⟨answer, hchanges⟩ := hchanges
    exact (ih answer hchanges).imp_left fun hnext => ⟨answer, hnext⟩

/-- Code that goes on after some other and changes nothing itself. -/
theorem changes_of_andThen {first : Script ε η ω α} {second : α → Script ε η ω β}
    (hsecond : ∀ a, ¬ (second a).Changes change)
    (hchanges : (first.andThen second).Changes change) : first.Changes change :=
  (changes_andThen hchanges).resolve_right fun ⟨a, hchange⟩ => hsecond a hchange

theorem changes_embed {plugin : η → η'} {script : Script ε η ω α}
    (hchanges : (script.embed plugin).Changes change) : script.Changes change := by
  induction script with
  | done a => exact hchanges
  | emit output next ih => exact ih hchanges
  | setBase dir next ih => exact ih hchanges
  | update first next ih => exact hchanges.imp_right ih
  | render text next ih | load name next ih | register name plugin next ih | settle next ih
  | read path next ih | observe next ih =>
    obtain ⟨answer, hchanges⟩ := hchanges
    exact ⟨answer, ih answer hchanges⟩

end Script

namespace Handler

variable {ω γ : Type} (η : Type) [Offers η] [Handler η ω]

/-- Whether a change of the world stands in the code of a plugin. -/
def Changes (change : ω → ω) : Prop :=
  ∃ plugin : η,
    (∃ method params, (Handler.invoke plugin method params : Command η ω _).Changes change) ∨
      (Handler.loaded plugin : Hook η ω _).Changes change

end Handler

section Bound

variable {β π η ω : Type} {change : ω → ω} {plugin : Bound β π}

theorem Bound.changes_invoke
    {run : β → π → Option ParamSet → Command η ω (π × Except PluginError Text)} {method : Text}
    {params : Option ParamSet} (hchanges : (plugin.invoke run method params).Changes change) :
    ∃ command, (run command plugin.state params).Changes change := by
  rw [invoke] at hchanges
  cases hcommand : plugin.commands.get method with
  | none =>
    rw [hcommand] at hchanges
    exact hchanges.elim
  | some command =>
    rw [hcommand] at hchanges
    exact ⟨command, Script.changes_of_andThen (fun _ => id) hchanges⟩

end Bound

namespace Scripted

variable {η ω : Type} [Journal ω] {change : ω → ω} {state : Scripted η} {params : Option ParamSet}

end Scripted

end Stencil
