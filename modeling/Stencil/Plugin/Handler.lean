import Stencil.Directive.Params
import Stencil.Plugin.Script

namespace Stencil

/-- Plugins whose methods can be told. -/
class Offers (η : Type) where
  offer : η → Offer

/-- Plugins that can be called in a world. A call without parameters passes none. A plugin is a
value, and code that was run on it ends with the value it has become. -/
class Handler (η ω : Type) [Offers η] where
  /-- runs a method -/
  invoke : η → Text → Option ParamSet → Command η ω (η × Except PluginError Text)
  /-- runs once, after registration and before the first call -/
  loaded : η → Hook η ω (η × Except RenderError Unit)

/-- No plugins at all. -/
instance : Offers Empty where
  offer := Empty.elim

instance (ω : Type) : Handler Empty ω where
  invoke := Empty.elim
  loaded := Empty.elim

end Stencil
