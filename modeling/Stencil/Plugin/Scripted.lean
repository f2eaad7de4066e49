import Stencil.Plugin.Action
import Stencil.Plugin.CommandTable

namespace Stencil

/-- What a command may do. -/
inductive Behaviour
  /-- answers a parameter -/
  | value
  /-- lists the parameters -/
  | args
  /-- emits two parameters and answers a third -/
  | echo
  /-- emits something and fails -/
  | fail
  /-- answers a parameter that has to be there -/
  | require
  /-- tells whether a parameter is there -/
  | has
  /-- moves the counter on -/
  | count
  /-- keeps a text -/
  | set
  /-- answers the text that was kept -/
  | get
  /-- renders a parameter -/
  | render
  /-- loads a plugin and lists all that are registered -/
  | load
  /-- registers a plugin with all behaviours -/
  | spawn
  /-- changes the base directory -/
  | base
  /-- reads a file below the base directory -/
  | read
  /-- lists the registered names -/
  | names
  /-- tells the state of a registered plugin -/
  | info
  /-- tells the root path and the base directory -/
  | root
  deriving DecidableEq, Repr

namespace Behaviour

/-- The stock of behaviours. -/
def stock : List Behaviour :=
  [value, args, echo, fail, require, has, count, set, get, render, load, spawn, base, read, names,
    info, root]

/-- The name of a behaviour. -/
def name : Behaviour → Text
  | value => "value"
  | args => "args"
  | echo => "echo"
  | fail => "fail"
  | require => "require"
  | has => "has"
  | count => "count"
  | set => "set"
  | get => "get"
  | render => "render"
  | load => "load"
  | spawn => "spawn"
  | base => "base"
  | read => "read"
  | names => "names"
  | info => "info"
  | root => "root"

/-- The behaviour of a name; any other name means `value`. -/
def ofName (text : Text) : Behaviour :=
  (stock.find? fun behaviour => behaviour.name = text).getD value

/-- The table in which every behaviour has its own name. -/
def table : CommandTable Behaviour :=
  CommandTable.ofList (stock.map fun behaviour => (behaviour.name, behaviour))

end Behaviour

/-- An action of a hook. If it is guarded, the hook goes on after it failed. -/
structure HookAction (η : Type) where
  action : Action η
  guarded : Bool

/-- The state of a scripted plugin, with the actions of its hook. -/
structure Scripted (η : Type) where
  hook : List (HookAction η)
  count : Nat
  store : Text

/-- A state as it is at first. -/
def Scripted.new {η : Type} (hook : List (HookAction η)) : Scripted η :=
  ⟨hook, 0, []⟩

/-- A method of a plugin without command table: what a call emits and how it ends. -/
structure RawMethod where
  output : Text
  result : Except PluginError Text

/-- A plugin written as data: its commands are taken from a stock of behaviours, and its hook is a
list of actions. -/
inductive Guest
  /-- made from a command table -/
  | bound (plugin : Bound Behaviour (Scripted Guest))
  /-- made from a command table, but accepting calls of every method -/
  | eager (plugin : Bound Behaviour (Scripted Guest))
  /-- without a table: its methods by name -/
  | raw (methods : List (Text × RawMethod))

namespace Scripted

variable {η ω : Type} [Journal ω]

/-- The text of a keyed parameter, or the empty text. -/
def param (params : Option ParamSet) (key : Text) : Text :=
  (params.bind (·.get key)).getD []

/-- The text of a keyed parameter that has to be there. -/
def required (params : Option ParamSet) (key : Text) : Except PluginError Text :=
  match params.bind (·.get key) with
  | some text => .ok text
  | none => .error (.missingParam key)

/-- Notes something in the journal. -/
def note {ε : Type} (entry : Note) : Script ε η ω Unit :=
  .update (Journal.note entry) (.done ())

/-- The registered names, divided by commas. -/
def nameList (view : View ω) : Text :=
  [','].intercalate (view.handles.map HandleView.name)

/-- How parameters are listed: their number, and each as it would be written. -/
def listing : Option ParamSet → Text
  | none => "none"
  | some params =>
    let items := params.map fun
      | (key, .text value) => key ++ '=' :: value
      | (key, .flag) => key
    Text.ofNat params.length ++ '[' :: ['|'].intercalate items ++ [']']

/-- A truth value in words. -/
def verdict (b : Bool) : Text :=
  if b then "true" else "false"

/-- Runs a command whose parameter has to be there, on the text of the parameter. -/
def withParam (state : Scripted η) (params : Option ParamSet) (key : Text)
    (command : Text → Command η ω (Scripted η × Except PluginError Text)) :
    Command η ω (Scripted η × Except PluginError Text) :=
  match required params key with
  | .ok text => command text
  | .error cause => pure (state, .error cause)

/-- What a behaviour does. `fresh` is the plugin that `spawn` registers under a name. -/
def command (fresh : Text → η) (behaviour : Behaviour) (state : Scripted η)
    (params : Option ParamSet) : Command η ω (Scripted η × Except PluginError Text) :=
  let ok (text : Text) : Command η ω (Scripted η × Except PluginError Text) :=
    pure (state, .ok text)
  match behaviour with
  | .value => ok (param params "text")
  | .args => ok (listing params)
  | .echo => .emit (param params "a") (.emit (param params "b") (ok (param params "text")))
  | .fail =>
    let message := (params.bind (·.get "text")).getD "failed"
    .emit "discarded" (pure (state, .error (.other message)))
  | .require => withParam state params "key" ok
  | .has => withParam state params "key" fun key =>
    let present := params.any (·.contains key)
    ok (verdict present ++ ' ' :: (params.bind (·.get key)).getD ['-'])
  | .count => do
    let state := { state with count := state.count + 1 }
    note (.count state.count)
    return (state, .ok (Text.ofNat state.count))
  | .set => withParam state params "text" fun text => pure ({ state with store := text }, .ok [])
  | .get => ok state.store
  | .render => withParam state params "text" fun text =>
    .render text fun result => pure (state, result.mapError .failed)
  | .load => withParam state params "name" fun name =>
    .load name fun
      | .error cause => pure (state, .error (.failed cause))
      | .ok () => .observe fun view => ok (nameList view)
  | .spawn => withParam state params "name" fun name =>
    .register name (fresh name) fun
      | .error cause => pure (state, .error (.failed cause))
      | .ok added => ok (verdict added)
  | .base => withParam state params "dir" fun dir => .setBase dir (ok [])
  | .read => withParam state params "file" fun file =>
    .observe fun view => .read (Path.below view.baseDir file) fun result =>
      pure (state, result.mapError .unreadable)
  | .names => .observe fun view => ok (nameList view)
  | .info => withParam state params "name" fun name =>
    .observe fun view =>
      match view.handles.find? fun handle => handle.name = name with
      | none => ok "absent"
      | some handle =>
        ok ("init=".toList ++ verdict handle.initialized ++ " busy=".toList ++
          verdict handle.isBusy)
  | .root => .observe fun view => ok (view.rootPath ++ '|' :: view.baseDir)

/-- Runs actions one after another. One that fails ends the hook, unless it is guarded. -/
def actions : List (HookAction η) → Hook η ω (Except RenderError Unit)
  | [] => do
    note .hookEnd
    return .ok ()
  | { action, guarded } :: rest => do
    match ← action.script with
    | .ok answer =>
      note (.done action.label answer)
      actions rest
    | .error cause =>
      if guarded then
        note (.failed cause.message)
        actions rest
      else
        return .error cause

/-- The hook of a scripted plugin. -/
def loaded (state : Scripted η) : Hook η ω (Scripted η × Except RenderError Unit) := do
  note .hookBegin
  let result ← actions state.hook
  return (state, result)

end Scripted

namespace Guest

/-- A plugin made from a table, bound to a name. -/
def new (name : Text) (commands : CommandTable Behaviour) (hook : List (HookAction Guest)) :
    Bound Behaviour (Scripted Guest) :=
  ⟨name, commands, Scripted.new hook⟩

/-- The plugin with all behaviours and an empty hook. -/
def plain (name : Text) : Guest :=
  .bound (new name Behaviour.table [])

instance : Offers Guest where
  offer
    | .bound plugin => plugin.offer
    | .eager plugin => { plugin.offer with accepts := fun _ => true }
    | .raw methods =>
      { methods := methods.map Prod.fst, accepts := fun method => (methods.lookup method).isSome }

variable {ω : Type} [Journal ω]

/-- Runs a method. -/
def invoke (guest : Guest) (method : Text) (params : Option ParamSet) :
    Command Guest ω (Guest × Except PluginError Text) :=
  match guest with
  | .bound plugin => do
    let (plugin, result) ← plugin.invoke (Scripted.command plain) method params
    return (.bound plugin, result)
  | .eager plugin => do
    let (plugin, result) ← plugin.invoke (Scripted.command plain) method params
    return (.eager plugin, result)
  | .raw methods =>
    match methods.lookup method with
    | none => pure (.raw methods, .error (.unknownMethod [] method))
    | some found => .emit found.output (pure (.raw methods, found.result))

/-- Runs the hook. -/
def loaded (guest : Guest) : Hook Guest ω (Guest × Except RenderError Unit) :=
  match guest with
  | .bound plugin => do
    let (plugin, result) ← plugin.loaded Scripted.loaded
    return (.bound plugin, result)
  | .eager plugin => do
    let (plugin, result) ← plugin.loaded Scripted.loaded
    return (.eager plugin, result)
  | .raw methods => do
    Scripted.note .rawHook
    return (.raw methods, .ok ())

instance : Handler Guest ω where
  invoke := invoke
  loaded := loaded

end Guest

end Stencil
