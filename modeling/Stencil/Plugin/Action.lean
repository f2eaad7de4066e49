import Stencil.Plugin.Handler
import Stencil.Path

namespace Stencil

/-- An operation on a context. `η` is the plugins it may register. -/
inductive Action (η : Type)
  | render (text : Text)
  | load (name : Text)
  /-- registers a plugin made from a command table -/
  | register (name : Text) (plugin : η)
  /-- registers a plugin that is answerable for its methods itself -/
  | registerRaw (name : Text) (plugin : η)
  | settle
  | setBase (dir : Text)
  /-- tells the path that a file name stands for -/
  | resolve (path : Text)
  | read (path : Text)
  /-- fails as the loading of an unknown plugin does -/
  | fail (name : Text)

/-- What an operation that did not fail answers. -/
inductive Answer
  | nothing
  | flag (value : Bool)
  | text (value : Text)
  /-- that a file could not be read is an answer, too -/
  | unreadable (cause : ReadError)
  deriving DecidableEq, Repr

/-- A note in the journal of a world. -/
inductive Note
  /-- a file was asked for -/
  | read (path : Text)
  /-- a hook was started -/
  | hookBegin
  /-- a hook of a plugin without command table was run -/
  | rawHook
  /-- an action of a hook was done -/
  | done (action : Text) (answer : Answer)
  /-- an action of a hook failed, and the hook went on -/
  | failed (message : Text)
  /-- a hook came to its end -/
  | hookEnd
  /-- a counter was moved on -/
  | count (value : Nat)
  deriving DecidableEq, Repr

/-- A world in which notes are kept. -/
class Journal (ω : Type) where
  note : Note → ω → ω

namespace Action

variable {ε η ω : Type}

/-- The word for an operation. -/
def label : Action η → Text
  | render _ => "render"
  | load _ => "load"
  | register _ _ => "register"
  | registerRaw _ _ => "register_raw"
  | settle => "bind"
  | setBase _ => "set_base"
  | resolve _ => "resolve"
  | read _ => "read"
  | fail _ => "fail"

/-- The code that performs an operation. -/
def script : Action η → Script ε η ω (Except RenderError Answer)
  | render text => .render text fun result => .done (result.map .text)
  | load name => .load name fun result => .done (result.map fun _ => .nothing)
  | register name plugin => .register name plugin fun result => .done (result.map .flag)
  | registerRaw name plugin => .register name plugin fun result => .done (result.map .flag)
  | settle => .settle fun result => .done (result.map fun _ => .nothing)
  | setBase dir => .setBase dir (.done (.ok .nothing))
  | resolve path => .observe fun view => .done (.ok (.text (Path.below view.baseDir path)))
  | read path => .read path fun
    | .ok text => .done (.ok (.text text))
    | .error cause => .done (.ok (.unreadable cause))
  | fail name => .done (.error (.unknownPlugin name))

end Action

end Stencil
