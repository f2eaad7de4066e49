import Stencil.Text.Basic

namespace Stencil.Markup

/-- A cause for which the tokens of a document do not follow one another as they should. -/
inductive ReadFault
  /-- `<!` is followed by nothing that begins a declaration, a comment or a CDATA section -/
  | unknownDeclaration
  | unclosedInstruction
  /-- the declaration at the top of a document has no end -/
  | unclosedHeader
  | unclosedComment
  | unclosedDoctype
  | unclosedCharacterData
  | unclosedTag
  /-- the given quote has no partner in its tag -/
  | unclosedValue (quote : Char)
  /-- an element has no end tag -/
  | missingEnd (name : Text)
  /-- an end tag stands where no element is open -/
  | unmatchedEnd (name : Text)
  /-- an end tag does not fit the element that is open -/
  | mismatchedEnd (expected found : Text)
  /-- `&` has no `;` -/
  | unclosedReference
  /-- a document type has no name -/
  | namelessDoctype
  deriving DecidableEq, Repr

/-- A cause for which the attributes of a tag cannot be read. Positions count bytes from the
character behind the `<`. -/
inductive AttributeFault
  /-- a key is not followed by `=` -/
  | expectedEquals (position : Nat)
  /-- the tag ends behind a `=` -/
  | expectedValue (position : Nat)
  /-- a value has no quotes -/
  | unquotedValue (position : Nat)
  /-- a value has no closing quote -/
  | expectedQuote (position : Nat) (quote : Char)
  /-- a key was used before -/
  | duplicate (position previous : Nat)
  deriving DecidableEq, Repr

/-- A text between grave accents. -/
def cited (t : Text) : Text :=
  '\x60' :: t ++ ['\x60']

/-- What the end of the input was reached in search of. -/
def notFound (construct closing : Text) : Text :=
  construct ++ " not closed: ".toList ++ cited closing ++ " not found before end of input".toList

/-- The end tag of a name. -/
def endTag (name : Text) : Text :=
  '<' :: '/' :: name ++ ['>']

namespace ReadFault

/-- The fault without the kind it belongs to. -/
def detail : ReadFault → Text
  | unknownDeclaration => "unknown or missed symbol in markup"
  | unclosedInstruction => notFound "processing instruction" "?>"
  | unclosedHeader => notFound "XML declaration" "?>"
  | unclosedComment => notFound "comment" "-->"
  | unclosedDoctype => notFound "DOCTYPE" ">"
  | unclosedCharacterData => notFound "CDATA" "]]>"
  | unclosedTag => notFound "tag" ">"
  | unclosedValue quote => notFound "attribute value" [quote]
  | missingEnd name => notFound "start tag" (endTag name)
  | unmatchedEnd name =>
    "close tag ".toList ++ cited (endTag name) ++ " does not match any open tag".toList
  | mismatchedEnd expected found =>
    "expected ".toList ++ cited (endTag expected) ++ ", but ".toList ++ cited (endTag found) ++
      " was found".toList
  | unclosedReference => notFound "entity or character reference" ";"
  | namelessDoctype =>
    cited "<!DOCTYPE>" ++ " declaration does not contain a name of a document type".toList

/-- Whether a construct is cut off, as opposed to constructs that do not fit together. -/
def isSyntactic : ReadFault → Bool
  | unknownDeclaration | unclosedInstruction | unclosedHeader | unclosedComment | unclosedDoctype
  | unclosedCharacterData | unclosedTag | unclosedValue _ => true
  | missingEnd _ | unmatchedEnd _ | mismatchedEnd _ _ | unclosedReference | namelessDoctype => false

/-- How a fault is worded. -/
def message (fault : ReadFault) : Text :=
  (if fault.isSyntactic then "syntax error: ".toList else "ill-formed document: ".toList) ++
    fault.detail

end ReadFault

namespace AttributeFault

/-- Where a fault was noticed. -/
def position : AttributeFault → Nat
  | expectedEquals position | expectedValue position | unquotedValue position
  | expectedQuote position _ | duplicate position _ => position

/-- The fault without its position. -/
def detail : AttributeFault → Text
  | expectedEquals _ => "attribute key must be directly followed by ".toList ++ cited ['='] ++
      " or space".toList
  | expectedValue _ => cited ['='] ++ " must be followed by an attribute value".toList
  | unquotedValue _ => "attribute value must be enclosed in ".toList ++ cited ['"'] ++
      " or ".toList ++ cited ['\'']
  | expectedQuote _ quote => "missing closing quote ".toList ++ cited [quote] ++
      " in attribute value".toList
  | duplicate _ previous =>
    "duplicated attribute, previous declaration at position ".toList ++ Text.ofNat previous

/-- How a fault is worded. -/
def message (fault : AttributeFault) : Text :=
  "position ".toList ++ Text.ofNat fault.position ++ ": ".toList ++ fault.detail

end AttributeFault

end Stencil.Markup
