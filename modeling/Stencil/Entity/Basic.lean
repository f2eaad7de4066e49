import Stencil.Text.Pieces
import Stencil.Entity.Capital
import Stencil.Entity.Small

namespace Stencil.Entity

/-- The value of a digit in the given base, at most sixteen. -/
def digit (base : Nat) (c : Char) : Option Nat :=
  let value :=
    if '0' ≤ c ∧ c ≤ '9' then some (c.toNat - '0'.toNat)
    else if 'a' ≤ c ∧ c ≤ 'f' then some (c.toNat - 'a'.toNat + 10)
    else if 'A' ≤ c ∧ c ≤ 'F' then some (c.toNat - 'A'.toNat + 10)
    else none
  value.filter (· < base)

/-- The number that a text of digits writes; no text without digits writes one. -/
def number (base : Nat) : Text → Option Nat
  | [] => none
  | digits => digits.foldlM (fun n c => (digit base c).map (base * n + ·)) 0

/-- The character of the given number, if there is one. -/
def charOf (n : Nat) : Option Char :=
  if n.isValidChar then some (Char.ofNat n) else none

/-- Control characters below the space cannot be referred to by number, except the four that
separate words or lines. -/
def isRefused (c : Char) : Bool :=
  c < ' ' && !(c = '\t' || c = '\n' || c = '\x0c' || c = '\r')

/-- The character that a numeric reference stands for. -/
def numeric (base : Nat) (digits : Text) : Option Char :=
  ((number base digits).bind charOf).filter (!isRefused ·)

/-- The character that a name stands for. -/
def named : Text → Option Char
  | [] => none
  | c :: rest =>
    let name := String.ofList (c :: rest)
    ((capitalNames c ++ smallNames c).lookup name).bind charOf

/-- The character that the text between `&` and `;` stands for. -/
def meaning : Text → Option Char
  | '#' :: 'x' :: digits => numeric 16 digits
  | '#' :: 'X' :: digits => numeric 16 digits
  | '#' :: digits => numeric 10 digits
  | name => named name

/-- A reference at the front of a text. It reaches to the first `;`, and no second `&` stands
before that. -/
def reference : Text.Matcher Text
  | '&' :: rest =>
    let body := rest.takeWhile fun c => c ≠ '&' && c ≠ ';'
    match rest.drop body.length with
    | ';' :: _ => (meaning body).map fun c => ([c], body.length + 1)
    | _ => none
  | _ => none

/-- A text with every reference replaced by its character, in a single pass. One that names no
character stays as it is written. -/
def decode (t : Text) : Text :=
  Text.replaceMatches reference t

end Stencil.Entity
