import Stencil.Plugin.Handler

namespace Stencil

/-- Commands by name, in the order in which they were last added. -/
structure CommandTable (β : Type) where
  entries : List (Text × β)

namespace CommandTable

variable {β : Type}

/-- A table without commands. -/
def empty : CommandTable β := ⟨[]⟩

/-- Adds a command; an earlier one of the same name is dropped. -/
def command (table : CommandTable β) (name : Text) (command : β) : CommandTable β :=
  ⟨(table.entries.filter fun entry => entry.1 ≠ name) ++ [(name, command)]⟩

/-- Adds commands one after another. -/
def ofList (entries : List (Text × β)) : CommandTable β :=
  entries.foldl (fun table (name, command) => table.command name command) empty

/-- The command of a name. -/
def get (table : CommandTable β) (name : Text) : Option β :=
  table.entries.lookup name

/-- The names of the commands. -/
def names (table : CommandTable β) : List Text :=
  table.entries.map Prod.fst

end CommandTable

/-- A plugin with state `π`, made from a command table and bound to a name. -/
structure Bound (β π : Type) where
  name : Text
  commands : CommandTable β
  state : π

namespace Bound

variable {β π η ω : Type}

/-- Its methods are the names in its table. -/
def offer (plugin : Bound β π) : Offer where
  methods := plugin.commands.names
  accepts := fun method => (plugin.commands.get method).isSome

/-- Runs the command of a method on the state; `run` says what the commands of the table do. -/
def invoke (run : β → π → Option ParamSet → Command η ω (π × Except PluginError Text))
    (plugin : Bound β π) (method : Text) (params : Option ParamSet) :
    Command η ω (Bound β π × Except PluginError Text) :=
  match plugin.commands.get method with
  | none => pure (plugin, .error (.unknownMethod plugin.name method))
  | some command => do
    let (state, result) ← run command plugin.state params
    return ({ plugin with state }, result)

/-- Runs a hook on the state. -/
def loaded (hook : π → Hook η ω (π × Except RenderError Unit)) (plugin : Bound β π) :
    Hook η ω (Bound β π × Except RenderError Unit) := do
  let (state, result) ← hook plugin.state
  return ({ plugin with state }, result)

end Bound

end Stencil
