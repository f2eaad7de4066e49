import Stencil.Render.Engine

namespace Stencil.Context

variable {η ω ε α : Type} [Reads ω] [Offers η] [Handler η ω]

/-- Renders a text. -/
def render (depth : Nat) (text : Text) (ctx : Context η ω) : Outcome η ω Text :=
  (engine depth).render text ctx

/-- Registers what was activated and runs the hooks that have not been started. -/
def settle (depth : Nat) (ctx : Context η ω) : Outcome η ω Unit :=
  (engine depth).settle ctx

/-- Loads a plugin. -/
def load (depth : Nat) (name : Text) (ctx : Context η ω) : Outcome η ω Unit :=
  (engine depth).load name ctx

/-- Registers a plugin. -/
def register (depth : Nat) (name : Text) (plugin : η) (ctx : Context η ω) : Outcome η ω Bool :=
  (engine depth).register name plugin ctx

/-- Runs code in a context. -/
def run (depth : Nat) (script : Hook η ω α) (ctx : Context η ω) : Option (α × Context η ω) :=
  ((engine depth).run script ctx).map fun (a, _, ctx) => (a, ctx)

end Stencil.Context
