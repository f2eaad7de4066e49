import Stencil.Plugin.Scripted

namespace Stencil

/-- Whether code is a row of load requests that ends at the first one that fails; `tells` says what
the end of the code tells of them. Meanwhile the world may change. -/
inductive Script.Requests {ε η ω α : Type} (tells : α → Except RenderError Unit) :
    List Text → Script ε η ω α → Prop
  | done {a : α} (hok : tells a = .ok ()) : Requests tells [] (.done a)
  | load {name : Text} {names : List Text} {next : Except RenderError Unit → Script ε η ω α}
      (hnext : Requests tells names (next (.ok ())))
      (hfails : ∀ cause, ∃ a, next (.error cause) = .done a ∧ tells a = .error cause) :
      Requests tells (name :: names) (.load name next)
  | update {names : List Text} {change : ω → ω} {next : Script ε η ω α}
      (hnext : Requests tells names next) : Requests tells names (.update change next)

/-- What is made of the end of code does not matter, as long as it tells the same. -/
theorem Script.Requests.map {ε η ω α β : Type} {tells : α → Except RenderError Unit}
    {tells' : β → Except RenderError Unit} {names : List Text} {script : Script ε η ω α}
    (hscript : script.Requests tells names) {f : α → β} (hf : ∀ a, tells' (f a) = tells a) :
    (script.andThen fun a => .done (f a)).Requests tells' names := by
  induction hscript with
  | done hok => exact .done ((hf _).trans hok)
  | load hnext hfails ih =>
    refine .load ih fun cause => ?_
    obtain ⟨a, hdone, hcause⟩ := hfails cause
    refine ⟨f a, ?_, (hf a).trans hcause⟩
    rw [hdone]
    rfl
  | update hnext ih => exact .update ih

namespace Guest

/-- A plugin whose hook loads other plugins. -/
def loading (name : Text) (names : List Text) : Guest :=
  .bound (Guest.new name .empty (names.map fun n => ⟨.load n, false⟩))

/-- The names of the plugins that the hook of a plugin loads. -/
def requests : Guest → List Text
  | bound plugin => plugin.state.hook.filterMap fun
    | ⟨.load name, _⟩ => some name
    | _ => none
  | eager _ => []
  | raw _ => []

theorem requests_loading (name : Text) (names : List Text) :
    (loading name names).requests = names := by
  change (names.map fun n => (⟨.load n, false⟩ : HookAction Guest)).filterMap _ = names
  rw [List.filterMap_map]
  exact List.filterMap_some

theorem requests_loaded {ω : Type} [Journal ω] (name : Text) (names : List Text) :
    (Handler.loaded (loading name names) : Hook Guest ω _).Requests Prod.snd
      (loading name names).requests := by
  have hactions : (Scripted.actions (names.map fun n => ⟨.load n, false⟩) :
      Hook Guest ω _).Requests id names := by
    induction names with
    | nil => exact .update (.done rfl)
    | cons n names ih => exact .load (.update ih) fun cause => ⟨.error cause, rfl, rfl⟩
  have hhook : (Scripted.loaded (.new (names.map fun n => ⟨.load n, false⟩)) :
      Hook Guest ω _).Requests Prod.snd names := .update (hactions.map fun _ => rfl)
  have hbound : (Bound.loaded Scripted.loaded
      (Guest.new name .empty (names.map fun n => ⟨.load n, false⟩)) :
        Hook Guest ω _).Requests Prod.snd names := hhook.map fun _ => rfl
  rw [requests_loading]
  exact hbound.map fun _ => rfl

end Guest

end Stencil
