import Stencil.Entity.Basic
import Stencil.Toml.Scalar

namespace Stencil.Toml

/-- What was read, and what is left; nothing if the text does not begin with what is to be read. -/
abbrev Reading (α : Type) := Option (α × Text)

/-- A space or a tab. -/
def isSpace (c : Char) : Bool :=
  c = ' ' || c = '\t'

/-- A text without the spaces at its front. -/
def skipSpace (t : Text) : Text :=
  t.dropWhile isSpace

/-- A control character that may stand nowhere. -/
def isControl (c : Char) : Bool :=
  (c < ' ' && c ≠ '\t') || c = '\x7f'

/-- The text behind a line end, if it begins with one. -/
def lineEnd? : Text → Option Text
  | '\n' :: t => some t
  | '\r' :: '\n' :: t => some t
  | _ => none

/-- A text without the spaces, line ends and comments at its front. -/
def skipBlank (comment : Bool) : Text → Option Text
  | [] => some []
  | c :: t =>
    if c = '\n' then skipBlank false t
    else if c = '\r' then if t.head? = some '\n' then skipBlank comment t else none
    else if comment then if isControl c then none else skipBlank true t
    else if isSpace c then skipBlank false t
    else if c = '#' then skipBlank true t
    else some (c :: t)

/-- What is left behind the end of a line, where a comment may stand. -/
def finishLine (t : Text) : Option Text :=
  let t := skipSpace t
  let t := match t with
    | '#' :: comment => comment.dropWhile fun c => !isControl c
    | _ => t
  if t.isEmpty then some [] else lineEnd? t

/-- The character that a number of the given digits stands for. -/
def codePoint (width : Nat) (t : Text) : Reading Char :=
  let digits := t.take width
  if digits.length = width then
    ((Entity.number 16 digits).bind Entity.charOf).map fun c => (c, t.drop width)
  else none

/-- The character of an escape, behind the backslash. -/
def readEscape : Text → Reading Char
  | 'b' :: t => some ('\x08', t)
  | 't' :: t => some ('\t', t)
  | 'n' :: t => some ('\n', t)
  | 'f' :: t => some ('\x0c', t)
  | 'r' :: t => some ('\r', t)
  | 'e' :: t => some ('\x1b', t)
  | '"' :: t => some ('"', t)
  | '\\' :: t => some ('\\', t)
  | 'x' :: t => codePoint 2 t
  | 'u' :: t => codePoint 4 t
  | 'U' :: t => codePoint 8 t
  | _ => none

/-- A text without the spaces and line ends at its front. -/
def skipLines : Text → Text
  | [] => []
  | '\r' :: '\n' :: t => skipLines t
  | c :: t => if isSpace c ∨ c = '\n' then skipLines t else c :: t

/-- What is left behind a backslash at the end of a line: spaces and line ends are skipped up to the
next character. -/
def skipContinuation (t : Text) : Option Text :=
  (lineEnd? (skipSpace t)).map skipLines

/-- A string on one line, behind its opening quote; `escapes` tells whether the backslash means
anything. -/
def readLine (quote : Char) (escapes : Bool) : Nat → Text → Reading Text
  | 0, _ => none
  | _ + 1, [] => none
  | fuel + 1, c :: t =>
    if c = quote then some ([], t)
    else if c = '\\' ∧ escapes then
      (readEscape t).bind fun (c, t) =>
        (readLine quote escapes fuel t).map fun (s, t) => (c :: s, t)
    else if isControl c then none
    else (readLine quote escapes fuel t).map fun (s, t) => (c :: s, t)

/-- A string over several lines, behind its opening quotes. Line ends are kept as they are written.
Up to two quotes may stand in front of the closing ones. -/
def readLines (quote : Char) (escapes : Bool) : Nat → Text → Reading Text
  | 0, _ => none
  | _ + 1, [] => none
  | fuel + 1, c :: t =>
    if c = quote then
      let quotes := (c :: t).takeWhile (· = quote)
      if quotes.length < 3 then
        (readLines quote escapes fuel t).map fun (s, t) => (c :: s, t)
      else if quotes.length ≤ 5 then some (quotes.drop 3, (c :: t).drop quotes.length)
      else none
    else if c = '\\' ∧ escapes then
      match skipContinuation t with
      | some t => readLines quote escapes fuel t
      | none =>
        (readEscape t).bind fun (c, t) =>
          (readLines quote escapes fuel t).map fun (s, t) => (c :: s, t)
    else if isControl c ∧ c ≠ '\n' ∧ ¬(c = '\r' ∧ t.head? = some '\n') then none
    else (readLines quote escapes fuel t).map fun (s, t) => (c :: s, t)

/-- A string. A line end right behind the opening of one over several lines is no part of it. -/
def readString (t : Text) : Reading Text :=
  match t with
  | '"' :: '"' :: '"' :: t => readLines '"' true (t.length + 1) ((lineEnd? t).getD t)
  | '"' :: t => readLine '"' true (t.length + 1) t
  | '\'' :: '\'' :: '\'' :: t => readLines '\'' false (t.length + 1) ((lineEnd? t).getD t)
  | '\'' :: t => readLine '\'' false (t.length + 1) t
  | _ => none

/-- A character of a key without quotes. -/
def isBare (c : Char) : Bool :=
  c.isAlphanum || c = '_' || c = '-'

/-- One part of a key. -/
def readKeyPart (t : Text) : Reading Text :=
  match t with
  | '"' :: t => readLine '"' true (t.length + 1) t
  | '\'' :: t => readLine '\'' false (t.length + 1) t
  | _ =>
    let part := t.takeWhile isBare
    if part.isEmpty then none else some (part, t.drop part.length)

/-- The parts of a key, with points between them. The parts before the last one come first. -/
def readKeyParts : Nat → Text → Reading (List Text × Text)
  | 0, _ => none
  | fuel + 1, t =>
    (readKeyPart (skipSpace t)).bind fun (part, t) =>
      match skipSpace t with
      | '.' :: t => (readKeyParts fuel t).map fun ((path, last), t) => ((part :: path, last), t)
      | t => some (([], part), t)

/-- How deep values may lie in one another, and how many parts a key may have. -/
def maxDepth : Nat := 80

/-- A key. The parts before the last one come first. -/
def readKey (t : Text) : Reading (List Text × Text) :=
  (readKeyParts (t.length + 1) t).filter fun ((path, _), _) => path.length < maxDepth

/-- A word: what a value without quotes or brackets is made of. Between a date and a time a space
may stand. -/
def readWord (t : Text) : Text × Text :=
  let isWordChar (c : Char) : Bool :=
    c.isAlphanum || c = '+' || c = '-' || c = '_' || c = '.' || c = ':'
  let word := t.takeWhile isWordChar
  match t.drop word.length with
  | ' ' :: c :: rest =>
    if isDate word ∧ c.isDigit then
      let time := (c :: rest).takeWhile isWordChar
      (word ++ ' ' :: time, (c :: rest).drop time.length)
    else (word, ' ' :: c :: rest)
  | rest => (word, rest)

mutual

/-- A value, in which others may lie `depth` deep. -/
def readValue : Nat → Nat → Text → Reading Value
  | 0, _, _ => none
  | fuel + 1, depth, t =>
    match t, depth with
    | '"' :: _, _ => (readString t).map fun (s, t) => (.string s, t)
    | '\'' :: _, _ => (readString t).map fun (s, t) => (.string s, t)
    | '[' :: _, 0 => none
    | '[' :: t, depth + 1 => (readItems fuel depth t).map fun (items, t) => (.array items, t)
    | '{' :: _, 0 => none
    | '{' :: t, depth + 1 =>
      (readEntries fuel depth [] t).map fun (entries, t) => (.table .inline entries, t)
    | _, _ =>
      let (word, rest) := readWord t
      (readScalar word).map fun value => (value, rest)

/-- The items of an array, up to its closing bracket. -/
def readItems : Nat → Nat → Text → Reading (List Value)
  | 0, _, _ => none
  | fuel + 1, depth, t =>
    (skipBlank false t).bind fun t =>
      match t with
      | ']' :: t => some ([], t)
      | _ =>
        (readValue fuel depth t).bind fun (value, t) =>
          (skipBlank false t).bind fun t =>
            match t with
            | ',' :: t => (readItems fuel depth t).map fun (items, t) => (value :: items, t)
            | ']' :: t => some ([value], t)
            | _ => none

/-- The entries of a table between braces, up to its closing brace; `before` are those already
read. Lines may end everywhere but inside a key. -/
def readEntries : Nat → Nat → Entries → Text → Reading Entries
  | 0, _, _, _ => none
  | fuel + 1, depth, before, t =>
    (skipBlank false t).bind fun t =>
      match t with
      | '}' :: t => some (before, t)
      | _ =>
        (readKey t).bind fun ((path, key), t) =>
          (skipBlank false t).bind fun t =>
            match t with
            | '=' :: t =>
              (skipBlank false t).bind fun t =>
                (readValue fuel depth t).bind fun (value, t) =>
                  (Entries.assign path key value .inline before).bind fun (_, entries) =>
                    (skipBlank false t).bind fun t =>
                      match t with
                      | ',' :: t => readEntries fuel depth entries t
                      | '}' :: t => some (entries, t)
                      | _ => none
            | _ => none

end

/-- Reads the lines of a document. `header` is the table that keys belong to at present, `entries`
is the document so far. -/
def readDocument : Nat → List Text → Entries → Text → Option Entries
  | 0, _, _, _ => none
  | fuel + 1, header, entries, t =>
    (skipBlank false t).bind fun t =>
      match t with
      | [] => some entries
      | '[' :: '[' :: t =>
        (readKey t).bind fun ((path, key), t) =>
          match t with
          | ']' :: ']' :: t =>
            (Entries.openItem path key entries).bind fun entries =>
              (finishLine t).bind (readDocument fuel (path ++ [key]) entries)
          | _ => none
      | '[' :: t =>
        (readKey t).bind fun ((path, key), t) =>
          match t with
          | ']' :: t =>
            (Entries.openTable path key entries).bind fun entries =>
              (finishLine t).bind (readDocument fuel (path ++ [key]) entries)
          | _ => none
      | _ =>
        (readKey t).bind fun ((path, key), t) =>
          match t with
          | '=' :: t =>
            (readValue (t.length + 1) maxDepth (skipSpace t)).bind fun (value, t) =>
              (Entries.assignUnder header path key value entries).bind fun entries =>
                (finishLine t).bind (readDocument fuel header entries)
          | _ => none

/-- Reads a document. A mark of the byte order at its front is skipped. -/
def read (t : Text) : Option Entries :=
  let t := if t.head? = some '\ufeff' then t.drop 1 else t
  readDocument (t.length + 1) [] [] t

end Stencil.Toml
