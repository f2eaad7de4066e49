import Stencil.Plugin.Scripted
import Stencil.Proofs.Directive.Shorter

namespace Stencil

/-- The operations that code may start: renders of some texts, and discoveries. -/
structure Limits where
  renders : Text → Prop
  discovers : Prop

namespace Limits

/-- Code that starts nothing. -/
def none : Limits := ⟨fun _ => False, False⟩

/-- Code that may start anything. -/
def all : Limits := ⟨fun _ => True, True⟩

/-- What a command may start: it may render what its parameters give. -/
def ofParams (params? : Option ParamSet) : Limits := ⟨ParamSet.Gives params?, True⟩

end Limits

namespace Script

variable {ε η ω α β : Type} {weight : η → Nat} {limits : Limits} {ends : α → Prop}

/-- Whether code keeps to its limits, registers plugins of a bounded weight altogether, and ends as
it should. -/
def Within (weight : η → Nat) (limits : Limits) (ends : α → Prop) : Nat → Script ε η ω α → Prop
  | _, done a => ends a
  | budget, emit _ next => next.Within weight limits ends budget
  | budget, render text next =>
    limits.renders text ∧ ∀ result, (next result).Within weight limits ends budget
  | budget, load _ next =>
    limits.discovers ∧ ∀ result, (next result).Within weight limits ends budget
  | budget, register _ plugin next =>
    limits.discovers ∧ weight plugin ≤ budget ∧
      ∀ result, (next result).Within weight limits ends (budget - weight plugin)
  | budget, settle next =>
    limits.discovers ∧ ∀ result, (next result).Within weight limits ends budget
  | budget, setBase _ next => next.Within weight limits ends budget
  | budget, read _ next => ∀ result, (next result).Within weight limits ends budget
  | budget, observe next => ∀ view, (next view).Within weight limits ends budget
  | budget, update _ next => next.Within weight limits ends budget

theorem Within.mono {budget budget' : Nat} {script : Script ε η ω α}
    (hwithin : script.Within weight limits ends budget) (hle : budget ≤ budget') :
    script.Within weight limits ends budget' := by
  induction script generalizing budget budget' with
  | done a => exact hwithin
  | emit output next ih => exact ih hwithin hle
  | render text next ih => exact ⟨hwithin.1, fun result => ih result (hwithin.2 result) hle⟩
  | load name next ih => exact ⟨hwithin.1, fun result => ih result (hwithin.2 result) hle⟩
  | register name plugin next ih =>
    obtain ⟨hdiscovers, hweight, hnext⟩ := hwithin
    exact ⟨hdiscovers, hweight.trans hle, fun result => ih result (hnext result) (by omega)⟩
  | settle next ih => exact ⟨hwithin.1, fun result => ih result (hwithin.2 result) hle⟩
  | setBase dir next ih => exact ih hwithin hle
  | read path next ih => exact fun result => ih result (hwithin result) hle
  | observe next ih => exact fun view => ih view (hwithin view) hle
  | update change next ih => exact ih hwithin hle

/-- What two scripts may register together they may register one after another. -/
theorem Within.andThen {budget budget' : Nat} {first : Script ε η ω α}
    {second : α → Script ε η ω β} {ends' : β → Prop}
    (hfirst : first.Within weight limits ends budget)
    (hsecond : ∀ a, ends a → (second a).Within weight limits ends' budget') :
    (first.andThen second).Within weight limits ends' (budget + budget') := by
  induction first generalizing budget with
  | done a => exact (hsecond a hfirst).mono (by omega)
  | emit output next ih => exact ih hfirst
  | render text next ih => exact ⟨hfirst.1, fun result => ih result (hfirst.2 result)⟩
  | load name next ih => exact ⟨hfirst.1, fun result => ih result (hfirst.2 result)⟩
  | register name plugin next ih =>
    obtain ⟨hdiscovers, hweight, hnext⟩ := hfirst
    refine ⟨hdiscovers, by omega, fun result => ?_⟩
    have hrest := ih result (hnext result)
    rwa [show budget - weight plugin + budget' = budget + budget' - weight plugin by omega] at hrest
  | settle next ih => exact ⟨hfirst.1, fun result => ih result (hfirst.2 result)⟩
  | setBase dir next ih => exact ih hfirst
  | read path next ih => exact fun result => ih result (hfirst result)
  | observe next ih => exact fun view => ih view (hfirst view)
  | update change next ih => exact ih hfirst

/-- Nothing is registered after the end of code that is only wrapped up. -/
theorem Within.wrap {budget : Nat} {first : Script ε η ω α} {second : α → Script ε η ω β}
    {ends' : β → Prop} (hfirst : first.Within weight limits ends budget)
    (hsecond : ∀ a, ends a → (second a).Within weight limits ends' 0) :
    (first.andThen second).Within weight limits ends' budget :=
  hfirst.andThen hsecond

end Script

/-- Plugins whose code is bounded by their weights. A hook may start anything, but what it registers
is together of less weight than its own plugin; one without weight starts nothing. A command renders
nothing but what its parameters give, registers only plugins without weight, and leaves a plugin of
no more weight. -/
structure Handler.Bounded {η : Type} (ω : Type) [Offers η] [Handler η ω] (weight : η → Nat) :
    Prop where
  command : ∀ (plugin : η) (method : Text) (params? : Option ParamSet),
    (Handler.invoke plugin method params? : Command η ω _).Within weight (.ofParams params?)
      (fun ended => weight ended.1 ≤ weight plugin) 0
  hook : ∀ plugin : η, 0 < weight plugin →
    (Handler.loaded plugin : Hook η ω _).Within weight .all (fun _ => True) (weight plugin - 1)
  idle : ∀ plugin : η, weight plugin = 0 →
    (Handler.loaded plugin : Hook η ω _).Within weight .none (fun _ => True) 0

theorem ParamSet.gives_of_get {params? : Option ParamSet} {key text : Text}
    (hget : params?.bind (·.get key) = some text) : Gives params? text := by
  obtain ⟨params, rfl, hparams⟩ := Option.bind_eq_some_iff.mp hget
  obtain ⟨value, hvalue, htext⟩ := Option.bind_eq_some_iff.mp hparams
  obtain ⟨before, after, rfl, -⟩ := List.lookup_eq_some_iff.mp hvalue
  cases value with
  | text other =>
    cases htext
    exact ⟨_, key, rfl, List.mem_append_right _ List.mem_cons_self⟩
  | flag => cases htext

namespace Guest

mutual

/-- How many actions the hook of a plugin has, those of the hooks of all plugins that it registers
included. -/
def weight : Guest → Nat
  | .bound ⟨_, _, ⟨actions, _, _⟩⟩ => weightOfActions actions
  | .eager ⟨_, _, ⟨actions, _, _⟩⟩ => weightOfActions actions
  | .raw _ => 0

/-- How many actions a hook has, those of the hooks of all plugins that it registers included. -/
def weightOfActions : List (HookAction Guest) → Nat
  | [] => 0
  | ⟨action, _⟩ :: rest => weightOfAction action + weightOfActions rest + 1

/-- How many actions the hook of a plugin has that an action registers. -/
def weightOfAction : Action Guest → Nat
  | .register _ plugin => plugin.weight
  | .registerRaw _ plugin => plugin.weight
  | .render _ => 0
  | .load _ => 0
  | .settle => 0
  | .setBase _ => 0
  | .resolve _ => 0
  | .read _ => 0
  | .fail _ => 0

end

theorem within_script {ε ω : Type} (action : Action Guest) :
    (action.script : Script ε Guest ω _).Within weight .all (fun _ => True)
      (weightOfAction action) := by
  cases action with
  | render text => exact ⟨trivial, fun _ => trivial⟩
  | load name => exact ⟨trivial, fun _ => trivial⟩
  | register name plugin => exact ⟨trivial, le_rfl, fun _ => trivial⟩
  | registerRaw name plugin => exact ⟨trivial, le_rfl, fun _ => trivial⟩
  | settle => exact ⟨trivial, fun _ => trivial⟩
  | setBase dir => exact trivial
  | resolve path => exact fun _ => trivial
  | read path =>
    intro result
    cases result <;> exact trivial
  | fail name => exact trivial

section Hook

variable {ω : Type} [Journal ω]

theorem within_actions (actions : List (HookAction Guest)) :
    (Scripted.actions actions : Hook Guest ω _).Within weight .all (fun _ => True)
      (weightOfActions actions - 1) := by
  induction actions with
  | nil => exact trivial
  | cons first rest ih =>
    obtain ⟨action, guarded⟩ := first
    have hrest : (Scripted.actions rest : Hook Guest ω _).Within weight .all (fun _ => True)
        (weightOfActions rest) := ih.mono (Nat.sub_le _ _)
    refine (within_script action).andThen fun result _ => ?_
    cases result with
    | ok answer => exact hrest
    | error cause =>
      cases guarded with
      | true => exact hrest
      | false => exact trivial

/-- A hook without actions starts nothing. -/
theorem within_actions_of_weight_eq_zero {actions : List (HookAction Guest)}
    (hweight : weightOfActions actions = 0) :
    (Scripted.actions actions : Hook Guest ω _).Within weight .none (fun _ => True) 0 := by
  cases actions with
  | nil => exact trivial
  | cons first rest => cases hweight

theorem within_loaded {limits : Limits} {budget : Nat} {plugin : Bound Behaviour (Scripted Guest)}
    (hactions : (Scripted.actions plugin.state.hook : Hook Guest ω _).Within weight limits
      (fun _ => True) budget) :
    (plugin.loaded Scripted.loaded : Hook Guest ω _).Within weight limits (fun _ => True)
      budget := by
  have hstate : (Scripted.loaded plugin.state : Hook Guest ω _).Within weight limits
      (fun _ => True) budget := hactions.wrap fun _ _ => trivial
  exact hstate.wrap fun _ _ => trivial

end Hook

section Command

variable {ω : Type} {state : Scripted Guest} {params? : Option ParamSet}

theorem within_withParam {key : Text}
    {command : Text → Command Guest ω (Scripted Guest × Except PluginError Text)}
    (hcommand : ∀ text, ParamSet.Gives params? text →
      (command text).Within weight (.ofParams params?) (fun ended => ended.1.hook = state.hook) 0) :
    (Scripted.withParam state params? key command).Within weight (.ofParams params?)
      (fun ended => ended.1.hook = state.hook) 0 := by
  rw [Scripted.withParam, Scripted.required]
  cases hget : params?.bind (·.get key) with
  | none => exact rfl
  | some text => exact hcommand text (ParamSet.gives_of_get hget)

variable [Journal ω]

/-- No command touches the hook, and the plugin that one may register has no actions. -/
theorem within_command (behaviour : Behaviour) :
    (Scripted.command plain behaviour state params? :
        Command Guest ω (Scripted Guest × Except PluginError Text)).Within weight
      (.ofParams params?) (fun ended => ended.1.hook = state.hook) 0 := by
  cases behaviour with
  | value => exact rfl
  | args => exact rfl
  | echo => exact rfl
  | fail => exact rfl
  | require => exact within_withParam fun _ _ => rfl
  | has => exact within_withParam fun _ _ => rfl
  | count => exact rfl
  | set => exact within_withParam fun _ _ => rfl
  | get => exact rfl
  | render => exact within_withParam fun _ hgives => ⟨hgives, fun _ => rfl⟩
  | load =>
    refine within_withParam fun name _ => ⟨trivial, fun result => ?_⟩
    cases result with
    | error cause => exact rfl
    | ok => exact fun _ => rfl
  | spawn =>
    refine within_withParam fun name _ => ⟨trivial, le_rfl, fun result => ?_⟩
    cases result <;> exact rfl
  | base => exact within_withParam fun _ _ => rfl
  | read => exact within_withParam fun _ _ _ _ => rfl
  | names => exact fun _ => rfl
  | info =>
    refine within_withParam fun name _ view => ?_
    beta_reduce
    split <;> exact rfl
  | root => exact fun _ => rfl

theorem within_invoke (plugin : Bound Behaviour (Scripted Guest)) (method : Text) :
    (plugin.invoke (Scripted.command plain) method params? : Command Guest ω _).Within weight
      (.ofParams params?) (fun ended => ended.1.state.hook = plugin.state.hook) 0 := by
  rw [Bound.invoke]
  cases plugin.commands.get method with
  | none => exact rfl
  | some behaviour => exact (within_command behaviour).wrap fun _ hhook => hhook

end Command

/-- The code of plugins that are written as data is bounded by the number of their actions. -/
theorem bounded {ω : Type} [Journal ω] : Handler.Bounded ω weight where
  command := by
    intro guest method params?
    cases guest with
    | bound plugin =>
      exact (within_invoke plugin method).wrap fun ended hhook =>
        (congrArg weightOfActions hhook).le
    | eager plugin =>
      exact (within_invoke plugin method).wrap fun ended hhook =>
        (congrArg weightOfActions hhook).le
    | raw methods =>
      change (Guest.invoke (.raw methods) method params? : Command Guest ω _).Within _ _ _ _
      rw [Guest.invoke]
      cases methods.lookup method with
      | none => exact le_rfl
      | some found => exact le_rfl
  hook := by
    intro guest hweight
    cases guest with
    | bound plugin =>
      exact (within_loaded (within_actions plugin.state.hook)).wrap fun _ _ => trivial
    | eager plugin =>
      exact (within_loaded (within_actions plugin.state.hook)).wrap fun _ _ => trivial
    | raw methods => exact trivial
  idle := by
    intro guest hweight
    cases guest with
    | bound plugin =>
      exact (within_loaded (within_actions_of_weight_eq_zero hweight)).wrap fun _ _ => trivial
    | eager plugin =>
      exact (within_loaded (within_actions_of_weight_eq_zero hweight)).wrap fun _ _ => trivial
    | raw methods => exact trivial

end Guest

end Stencil
