import Stencil.Text.Unprintable

namespace Stencil.Text

/-- A number in hexadecimal, in small letters. -/
def hex (n : Nat) : Text :=
  Nat.toDigits 16 n

/-- How one character stands between quotes: behind a backslash, by an escape of its own, or by its
number if it shows nothing by itself. -/
def quotedChar (c : Char) : Text :=
  if c = '\x00' then ['\\', '0']
  else if c = '\t' then ['\\', 't']
  else if c = '\r' then ['\\', 'r']
  else if c = '\n' then ['\\', 'n']
  else if c = '"' then ['\\', '"']
  else if c = '\\' then ['\\', '\\']
  else if isUnprintable c then ['\\', 'u', '{'] ++ hex c.toNat ++ ['}']
  else [c]

/-- A text between quotes, on one line. -/
def quoted (t : Text) : Text :=
  '"' :: t.flatMap quotedChar ++ ['"']

end Stencil.Text
