import Stencil.Files.Reading

namespace Stencil

/-- A cause for which an operation of a render context fails and comes to its end. -/
inductive RenderError
  /-- a file to be included could not be read -/
  | unreadable (path : Text) (cause : ReadError)
  /-- a plugin to be loaded is neither in the catalog nor registered -/
  | unknownPlugin (name : Text)
  deriving DecidableEq, Repr

namespace RenderError

/-- How a failure is worded. -/
def message : RenderError → Text
  | unreadable path cause => "Failed to include ".toList ++ path ++ ": ".toList ++ cause.message
  | unknownPlugin name => "Unknown plugin: ".toList ++ name

end RenderError

/-- A cause for which a command fails. It ends no more than the command, and its wording takes the
place of the directive. -/
inductive PluginError
  /-- a cause that the command words itself -/
  | other (message : Text)
  /-- the plugin has no such method -/
  | unknownMethod (plugin method : Text)
  /-- the plugin is already running -/
  | busy (plugin : Text)
  /-- a parameter that the command needs was not given as a text -/
  | missingParam (key : Text)
  /-- a file could not be read -/
  | unreadable (cause : ReadError)
  /-- an operation of the render context failed -/
  | failed (cause : RenderError)
  deriving DecidableEq, Repr

namespace PluginError

/-- How a failure is worded. -/
def message : PluginError → Text
  | other message => message
  | unknownMethod plugin method =>
    "plugin '".toList ++ plugin ++ "' has no method '".toList ++ method ++ ['\'']
  | busy plugin => "plugin '".toList ++ plugin ++ "' is busy".toList
  | missingParam key => "missing parameter '".toList ++ key ++ ['\'']
  | unreadable cause => cause.message
  | failed cause => cause.message

end PluginError

end Stencil
