import Stencil.Entity.Basic

namespace Stencil.Toml

/-- A text without its sign. -/
def dropSign : Text → Text
  | '+' :: t => t
  | '-' :: t => t
  | t => t

/-- The number that digits write in a base. Single underscores may stand between them. -/
def readDigits (base : Nat) (t : Text) : Option Nat :=
  if (Text.splitAll '_' t).all (!·.isEmpty) then Entity.number base (t.filter (· ≠ '_')) else none

/-- A decimal number without sign or leading zero. -/
def readWhole (t : Text) : Option Nat :=
  if t.length = 1 ∨ t.head? ≠ some '0' then readDigits 10 t else none

/-- A number with the sign that a text begins with. -/
def signed (t : Text) (n : Nat) : Int :=
  if t.head? = some '-' then -n else n

/-- An integer: decimal and maybe with a sign, or in another base behind a mark of that base. -/
def readInteger : Text → Option Int
  | '0' :: 'x' :: digits => (readDigits 16 digits).map Int.ofNat
  | '0' :: 'o' :: digits => (readDigits 8 digits).map Int.ofNat
  | '0' :: 'b' :: digits => (readDigits 2 digits).map Int.ofNat
  | t => (readWhole (dropSign t)).map (signed t)

/-- Whether an integer can be written in 128 bits. -/
def isWithinBits : Int → Bool
  | .ofNat n => decide (n < Nat.pow 2 128)
  | .negSucc n => decide (n < Nat.pow 2 127)

/-- The size of a number with a fraction or an exponent, `mantissa * 10 ^ exponent`. -/
structure Decimal where
  mantissa : Nat
  exponent : Int
  deriving DecidableEq, Repr

/-- An exponent with the letter in front of it, or no text at all. -/
def readExponent : Text → Option Int
  | [] => some 0
  | _ :: t => (readDigits 10 (dropSign t)).map (signed t)

/-- A number with a fraction, an exponent, or both. -/
def readDecimal (t : Text) : Option Decimal :=
  let t := dropSign t
  let front := t.takeWhile fun c => c ≠ 'e' && c ≠ 'E'
  (readExponent (t.drop front.length)).bind fun exponent =>
    match Text.cutFirst '.' front with
    | none =>
      if front.length = t.length then none
      else (readWhole front).map fun whole => ⟨whole, exponent⟩
    | some (whole, fraction) =>
      (readWhole whole).bind fun whole =>
        (readDigits 10 fraction).map fun part =>
          let places := (fraction.filter (· ≠ '_')).length
          ⟨whole * Nat.pow 10 places + part, exponent - places⟩

/-- The least size that rounds to infinity: half a step above the largest number that 64 bits
hold. -/
def overflow : Nat :=
  Nat.pow 2 1024 - Nat.pow 2 970

/-- Whether a number does not round to infinity. The number of its digits decides unless that is the
number of the digits of the limit. -/
def Decimal.isFinite (d : Decimal) : Bool :=
  let magnitude := (Text.ofNat d.mantissa).length + d.exponent
  d.mantissa = 0 || decide (magnitude < 309) ||
    (decide (magnitude = 309) &&
      decide (d.mantissa * Nat.pow 10 d.exponent.toNat <
        overflow * Nat.pow 10 (-d.exponent).toNat))

end Stencil.Toml
