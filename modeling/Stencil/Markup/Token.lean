import Stencil.Markup.Error

namespace Stencil.Markup

/-- White space between the parts of a tag. -/
def isSpace (c : Char) : Bool :=
  c = ' ' || c = '\t' || c = '\r' || c = '\n'

/-- What is between the angle brackets of a start tag; for a self-closed element, without the
slash. -/
structure Tag where
  body : Text
  deriving DecidableEq, Repr

namespace Tag

/-- The name of the element: everything up to the first white space. -/
def name (tag : Tag) : Text :=
  tag.body.takeWhile (!isSpace ·)

/-- What follows the name. -/
def rest (tag : Tag) : Text :=
  tag.body.dropWhile (!isSpace ·)

end Tag

/-- What a token is. -/
inductive TokenKind
  | text
  | reference
  | startTag (tag : Tag)
  | emptyTag (tag : Tag)
  | endTag (name : Text)
  | comment
  | characterData
  | instruction
  | doctype
  /-- nothing after this can be read -/
  | fault (cause : ReadFault)
  deriving DecidableEq, Repr

/-- A token and the text it was read from. -/
structure Token where
  kind : TokenKind
  source : Text
  deriving DecidableEq, Repr

namespace Token

/-- What has been read at the front of a text: a kind, and the number of characters that belong to
the token after the first one. -/
abbrev Reading := Except ReadFault (TokenKind × Nat)

/-- The text up to the `>` that ends a tag; one between quotes does not. `quote` is the quote that
is open. -/
def tagBody (quote : Option Char) : Text → Except ReadFault Text
  | [] => .error (match quote with
    | none => .unclosedTag
    | some q => .unclosedValue q)
  | c :: r =>
    match quote with
    | none =>
      if c = '>' then .ok []
      else (tagBody (if c = '"' ∨ c = '\'' then some c else none) r).map (c :: ·)
    | some q => (tagBody (if c = q then none else some q) r).map (c :: ·)

/-- The name in an end tag: without the white space at its end, unless it is nothing else. -/
def closedName (t : Text) : Text :=
  let name := (t.reverse.dropWhile isSpace).reverse
  if name.isEmpty then t else name

/-- Reads a tag, behind its `<`. -/
def readTag (r : Text) : Reading :=
  (tagBody none r).map fun body =>
    let kind := match body with
      | '/' :: t => .endTag (closedName t)
      | _ => if body.getLast? = some '/' then .emptyTag ⟨body.dropLast⟩ else .startTag ⟨body⟩
    (kind, body.length + 1)

/-- Whether a processing instruction is the declaration at the top of a document. -/
def isHeader (r : Text) : Bool :=
  match Text.after? "?xml" r with
  | none => false
  | some [] => true
  | some (c :: _) => isSpace c || c = '?'

/-- Reads a processing instruction, behind its `<`. The one question mark of `<?>` cannot both open
and close it. -/
def readInstruction (r : Text) : Reading :=
  match r.drop 1 with
  | '>' :: _ => .error .unclosedInstruction
  | t =>
    match Text.cutAt "?>" t with
    | some (body, _) => .ok (.instruction, body.length + 3)
    | none => .error (if isHeader r then .unclosedHeader else .unclosedInstruction)

/-- Reads what begins with `lead` and ends with `closing`, behind its `<`. -/
def readEnclosed (kind : TokenKind) (fault : ReadFault) (lead closing r : Text) : Reading :=
  match (Text.after? lead r).bind (Text.cutAt closing) with
  | some (body, _) => .ok (kind, lead.length + body.length + closing.length)
  | none => .error fault

/-- Where one is inside a document type. -/
inductive DoctypeState
  /-- outside the internal subset, with the quote that is open -/
  | outer (quote : Option Char)
  /-- inside the internal subset -/
  | subset
  /-- inside a declaration of the subset that may hold quoted texts -/
  | declaration (quote : Option Char)
  /-- inside a part of the subset that ends with the given text -/
  | skipped (closing : Text)
  /-- behind the internal subset -/
  | closed

/-- The declarations of an internal subset whose quoted texts are skipped. -/
def quotedDeclarations : List Text :=
  ["!ENTITY", "!ATTLIST", "!NOTATION"]

/-- Where one is behind a `<` in the internal subset, and how many characters of the mark that
says so follow it. What is neither comment nor instruction nor a declaration with quoted texts goes
on to the next `>`. -/
def subsetPart (r : Text) : Nat × DoctypeState :=
  if (Text.after? "!--" r).isSome then (3, .skipped "-->")
  else if (Text.after? ['?'] r).isSome then (1, .skipped "?>")
  else if quotedDeclarations.any fun lead => (Text.after? lead r).isSome then (0, .declaration none)
  else (0, .skipped ['>'])

/-- The quote that is open behind a character. -/
def quoteAfter (quote : Option Char) (c : Char) : Option Char :=
  match quote with
  | none => if c = '"' ∨ c = '\'' then some c else none
  | some q => if c = q then none else some q

/-- The text up to the `>` that ends a document type. `skip` characters belong to a mark that has
been read already. -/
def doctypeBody : Nat → DoctypeState → Text → Option Text
  | _, _, [] => none
  | skip + 1, state, c :: r => (doctypeBody skip state r).map (c :: ·)
  | 0, .outer none, c :: r =>
    if c = '>' then some []
    else
      (doctypeBody 0 (if c = '[' then .subset else .outer (quoteAfter none c)) r).map (c :: ·)
  | 0, .outer (some q), c :: r => (doctypeBody 0 (.outer (quoteAfter (some q) c)) r).map (c :: ·)
  | 0, .subset, c :: r =>
    if c = ']' then (doctypeBody 0 .closed r).map (c :: ·)
    else if c = '<' then
      (doctypeBody (subsetPart r).1 (subsetPart r).2 r).map (c :: ·)
    else (doctypeBody 0 .subset r).map (c :: ·)
  | 0, .declaration none, c :: r =>
    if c = '>' then (doctypeBody 0 .subset r).map (c :: ·)
    else (doctypeBody 0 (.declaration (quoteAfter none c)) r).map (c :: ·)
  | 0, .declaration (some q), c :: r =>
    (doctypeBody 0 (.declaration (quoteAfter (some q) c)) r).map (c :: ·)
  | 0, .skipped closing, c :: r =>
    if (Text.after? closing (c :: r)).isSome then
      (doctypeBody (closing.length - 1) .subset r).map (c :: ·)
    else (doctypeBody 0 (.skipped closing) r).map (c :: ·)
  | 0, .closed, c :: r =>
    if c = '>' then some [] else (doctypeBody 0 .closed r).map (c :: ·)

/-- Reads a document type, behind its `<`. -/
def readDoctype (r : Text) : Reading :=
  match doctypeBody 0 (.outer none) r with
  | none => .error .unclosedDoctype
  | some body =>
    if (body.take 8).map Char.toLower ≠ "!doctype" then .error .unclosedDoctype
    else if (body.drop 8).all isSpace then .error .namelessDoctype
    else .ok (.doctype, body.length + 1)

/-- Reads what begins with `<!`, behind its `<`. -/
def readDeclaration (r : Text) : Reading :=
  match r with
  | '!' :: '-' :: _ => readEnclosed .comment .unclosedComment "!--" "-->" r
  | '!' :: '[' :: _ => readEnclosed .characterData .unclosedCharacterData "![CDATA[" "]]>" r
  | '!' :: 'D' :: _ => readDoctype r
  | '!' :: 'd' :: _ => readDoctype r
  | _ => .error .unknownDeclaration

/-- Reads a reference, behind its `&`. What it refers to is not looked at. -/
def readReference (r : Text) : Reading :=
  let body := r.takeWhile fun c => c ≠ ';' && c ≠ '&' && c ≠ '<'
  match r.drop body.length with
  | ';' :: _ => .ok (.reference, body.length + 1)
  | _ => .error .unclosedReference

/-- Reads the token whose first character is `c`, with `r` behind it. -/
def read (c : Char) (r : Text) : Reading :=
  if c = '<' then
    match r with
    | '!' :: _ => readDeclaration r
    | '?' :: _ => readInstruction r
    | _ => readTag r
  else if c = '&' then readReference r
  else .ok (.text, (r.takeWhile fun c => c ≠ '<' && c ≠ '&').length)

/-- The tokens of a text whose first `skip` characters belong to a token already read. -/
def ofTextFrom : Nat → Text → List Token
  | _, [] => []
  | skip + 1, _ :: r => ofTextFrom skip r
  | 0, c :: r =>
    match read c r with
    | .ok (kind, more) => ⟨kind, c :: r.take more⟩ :: ofTextFrom more r
    | .error cause => [⟨.fault cause, c :: r⟩]

/-- The tokens of a text, from left to right. Their sources in a row are the text again, up to the
first fault, which ends the row. -/
def ofText (t : Text) : List Token :=
  ofTextFrom 0 t

end Token

end Stencil.Markup
