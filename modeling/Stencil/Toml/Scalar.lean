import Stencil.Toml.Moment
import Stencil.Toml.Number
import Stencil.Toml.Value

namespace Stencil.Toml

/-- The name under which a date or time is found in the table that stands for it. -/
def momentKey : Text :=
  "$__toml_private_datetime"

/-- Whether a text is a truth value, or a number beyond all others or none at all. -/
def isNamed (t : Text) : Bool :=
  t = "true" || t = "false" || dropSign t = "inf" || dropSign t = "nan"

/-- The value of a word. -/
def readScalar (t : Text) : Option Value :=
  if isNamed t then some (.scalar true)
  else
    match readInteger t with
    | some n => some (.scalar (isWithinBits n))
    | none =>
      match readDecimal t with
      | some d => some (.scalar d.isFinite)
      | none =>
        (readMoment t).map fun moment => .table .inline [(momentKey, .string moment)]

end Stencil.Toml
