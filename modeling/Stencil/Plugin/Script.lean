import Stencil.Plugin.Error

namespace Stencil

/-- The methods a plugin has: their names, and the test that decides whether a call is passed on. -/
structure Offer where
  methods : List Text
  accepts : Text → Bool

/-- What may be seen of a registered plugin. While it is running it offers nothing. -/
structure HandleView where
  name : Text
  initialized : Bool
  offer : Option Offer

/-- Whether a plugin is running. -/
def HandleView.isBusy (handle : HandleView) : Bool :=
  handle.offer.isNone

/-- What may be seen of a render context. -/
structure View (ω : Type) where
  rootPath : Text
  baseDir : Text
  handles : List HandleView
  catalog : List Text
  world : ω

/-- Code that runs inside a render context and ends with a value. A node asks the context for
something and goes on with the answer. `ε` is what it may emit, `η` the plugins it may register, `ω`
the world around the context. -/
inductive Script (ε η ω α : Type) : Type
  /-- the end -/
  | done (value : α)
  /-- puts something out beside the value -/
  | emit (output : ε) (next : Script ε η ω α)
  /-- renders a text -/
  | render (text : Text) (next : Except RenderError Text → Script ε η ω α)
  /-- loads a plugin of the catalog -/
  | load (name : Text) (next : Except RenderError Unit → Script ε η ω α)
  /-- registers a plugin; the answer tells whether the name was free -/
  | register (name : Text) (plugin : η) (next : Except RenderError Bool → Script ε η ω α)
  /-- initializes what waits to be initialized -/
  | settle (next : Except RenderError Unit → Script ε η ω α)
  /-- changes the directory that included files are looked up in -/
  | setBase (dir : Text) (next : Script ε η ω α)
  /-- reads a file -/
  | read (path : Text) (next : Except ReadError Text → Script ε η ω α)
  /-- looks at the context -/
  | observe (next : View ω → Script ε η ω α)
  /-- changes the world -/
  | update (change : ω → ω) (next : Script ε η ω α)

namespace Script

variable {ε η η' ω α β : Type}

/-- One script after another. -/
def andThen (first : Script ε η ω α) (second : α → Script ε η ω β) : Script ε η ω β :=
  match first with
  | done a => second a
  | emit output next => emit output (next.andThen second)
  | render text next => render text fun r => (next r).andThen second
  | load name next => load name fun r => (next r).andThen second
  | register name plugin next => register name plugin fun r => (next r).andThen second
  | settle next => settle fun r => (next r).andThen second
  | setBase dir next => setBase dir (next.andThen second)
  | read path next => read path fun r => (next r).andThen second
  | observe next => observe fun view => (next view).andThen second
  | update change next => update change (next.andThen second)

instance : Monad (Script ε η ω) where
  pure := done
  bind := andThen

/-- Carries a script to a context that knows more kinds of plugins. -/
def embed (plugin : η → η') : Script ε η ω α → Script ε η' ω α
  | done a => done a
  | emit output next => emit output (next.embed plugin)
  | render text next => render text fun r => (next r).embed plugin
  | load name next => load name fun r => (next r).embed plugin
  | register name h next => register name (plugin h) fun r => (next r).embed plugin
  | settle next => settle fun r => (next r).embed plugin
  | setBase dir next => setBase dir (next.embed plugin)
  | read path next => read path fun r => (next r).embed plugin
  | observe next => observe fun view => (next view).embed plugin
  | update change next => update change (next.embed plugin)

end Script

/-- The code of a command, which may emit text beside its value. -/
abbrev Command (η ω α : Type) :=
  Script Text η ω α

/-- The code that a plugin runs once, when it has been registered; it emits nothing. -/
abbrev Hook (η ω α : Type) :=
  Script Empty η ω α

end Stencil
