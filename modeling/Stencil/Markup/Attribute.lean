import Stencil.Entity.Basic
import Stencil.Markup.Token

namespace Stencil.Markup

/-- The character whose number is given by digits. NUL cannot be given. -/
def numbered (base : Nat) (digits : Text) : Option Char :=
  (Entity.number base digits).bind fun n => if n = 0 then none else Entity.charOf n

/-- The character of a reference in an attribute value, given without `&` and `;`. -/
def valueReference : Text → Option Char
  | '#' :: 'x' :: digits => numbered 16 digits
  | '#' :: digits => numbered 10 digits
  | name => ([("lt", '<'), ("gt", '>'), ("amp", '&'), ("apos", '\''), ("quot", '"')] :
      List (String × Char)).lookup (String.ofList name)

/-- A value with its references replaced; `skip` characters belong to a reference already read.
There is none if a reference has no meaning or no end. -/
def unescapeFrom : Nat → Text → Option Text
  | _, [] => some []
  | skip + 1, _ :: r => unescapeFrom skip r
  | 0, c :: r =>
    if c = '&' then
      let body := r.takeWhile fun c => c ≠ '&' && c ≠ ';'
      match r.drop body.length with
      | ';' :: _ => (valueReference body).bind fun d =>
        (unescapeFrom (body.length + 1) r).map (d :: ·)
      | _ => none
    else (unescapeFrom 0 r).map (c :: ·)

/-- The meaning of a written value. One with a reference that cannot be resolved means itself. -/
def unescapeValue (written : Text) : Text :=
  (unescapeFrom 0 written).getD written

/-- A key, the position at which it stands, and its written value. -/
structure RawAttribute where
  key : Text
  position : Nat
  written : Text
  deriving DecidableEq, Repr

/-- An attribute at the front of a text that lies at `position`, and the text behind it; nothing if
only white space is left. `seen` are the attributes before it. -/
def readAttribute (seen : List RawAttribute) (position : Nat) (t : Text) :
    Except AttributeFault (Option (RawAttribute × Text)) :=
  let finish := position + Text.bytes t
  match t.dropWhile isSpace with
  | [] => .ok none
  | first :: r =>
    let start := finish - Text.bytes (first :: r)
    let key := first :: r.takeWhile fun c => c ≠ '=' && !isSpace c
    match (r.drop (key.length - 1)).dropWhile isSpace with
    | '=' :: r =>
      match seen.find? fun other => other.key = key with
      | some other => .error (.duplicate start other.position)
      | none =>
        match r.dropWhile isSpace with
        | [] => .error (.expectedValue finish)
        | quote :: r =>
          if quote = '"' ∨ quote = '\'' then
            match Text.cutFirst quote r with
            | none => .error (.expectedQuote finish quote)
            | some (written, rest) => .ok (some (⟨key, start, written⟩, rest))
          else .error (.unquotedValue (finish - Text.bytes (quote :: r)))
    | rest => .error (.expectedEquals (finish - Text.bytes rest))

/-- Reads attributes one after another, at most `fuel` of them. Each key may stand once. -/
def readAttributes : Nat → List RawAttribute → Nat → Text →
    Except AttributeFault (List RawAttribute)
  | 0, seen, _, _ => .ok seen
  | fuel + 1, seen, position, t =>
    match readAttribute seen position t with
    | .error fault => .error fault
    | .ok none => .ok seen
    | .ok (some (item, rest)) =>
      readAttributes fuel (seen ++ [item]) (position + (Text.bytes t - Text.bytes rest)) rest

/-- The attributes of a tag in their order, with the meanings of their values. -/
def Tag.attributes (tag : Tag) : Except AttributeFault (List (Text × Text)) :=
  (readAttributes tag.rest.length [] (Text.bytes tag.name) tag.rest).map fun found =>
    found.map fun item => (item.key, unescapeValue item.written)

end Stencil.Markup
