namespace Stencil

/-- Documents, names, paths and messages: a text is the list of its characters. -/
abbrev Text := List Char

instance : Coe String Text := ⟨String.toList⟩

namespace Text

/-- Number of bytes that UTF-8 spends on a text. -/
def bytes : Text → Nat
  | [] => 0
  | c :: r => c.utf8Size + bytes r

/-- The text before the first `c` and the text after it. -/
def cutFirst (c : Char) : Text → Option (Text × Text)
  | [] => none
  | d :: r => if d = c then some ([], r) else (cutFirst c r).map fun (a, b) => (d :: a, b)

/-- The text before the last `c` and the text after it. -/
def cutLast (c : Char) : Text → Option (Text × Text)
  | [] => none
  | d :: r =>
    match cutLast c r with
    | some (a, b) => some (d :: a, b)
    | none => if d = c then some ([], r) else none

/-- The parts of a text between the occurrences of a character. -/
def splitAll (c : Char) : Text → List Text
  | [] => [[]]
  | d :: rest =>
    if d = c then [] :: splitAll c rest
    else
      match splitAll c rest with
      | [] => [[d]]
      | part :: others => (d :: part) :: others

/-- What follows `lead`, in a text that begins with it. -/
def after? : Text → Text → Option Text
  | [], t => some t
  | _ :: _, [] => none
  | c :: lead, d :: t => if c = d then after? lead t else none

/-- The text before the first occurrence of `mark` and the text after it. -/
def cutAt (mark : Text) : Text → Option (Text × Text)
  | [] => if mark.isEmpty then some ([], []) else none
  | c :: r =>
    match after? mark (c :: r) with
    | some rest => some ([], rest)
    | none => (cutAt mark r).map fun (a, b) => (c :: a, b)

/-- The text before the last occurrence of `mark`. -/
def beforeLast (mark : Text) : Text → Option Text
  | [] => none
  | c :: r =>
    match beforeLast mark r with
    | some a => some (c :: a)
    | none => if (after? mark (c :: r)).isSome then some [] else none

/-- What is left behind the first `n` bytes, if they end at the end of a character. -/
def dropBytes : Nat → Text → Option Text
  | 0, t => some t
  | _ + 1, [] => none
  | n + 1, c :: r => if c.utf8Size ≤ n + 1 then dropBytes (n + 1 - c.utf8Size) r else none

/-- The first `n` bytes, if they end at the end of a character. -/
def takeBytes : Nat → Text → Option Text
  | 0, _ => some []
  | _ + 1, [] => none
  | n + 1, c :: r =>
    if c.utf8Size ≤ n + 1 then (takeBytes (n + 1 - c.utf8Size) r).map (c :: ·) else none

/-- The bytes from one offset up to another, if both lie between characters. -/
def slice (start stop : Nat) (t : Text) : Option Text :=
  (dropBytes start t).bind (takeBytes (stop - start))

/-- Whether `part` stands somewhere in the text. -/
def holds (part t : Text) : Bool :=
  (cutAt part t).isSome

/-- Whether a text comes no later than another one, in the order of the numbers of their
characters. -/
def notAfter : Text → Text → Bool
  | [], _ => true
  | _ :: _, [] => false
  | c :: s, d :: t => decide (c.toNat < d.toNat) || (c == d && notAfter s t)

/-- A number in decimal. -/
def ofNat (n : Nat) : Text :=
  Nat.toDigits 10 n

end Text

end Stencil
