import Stencil.Markup.Attribute

namespace Stencil.Markup

/-- White space, possibly none. -/
structure Blank where
  text : Text
  spaces : ∀ c ∈ text, isSpace c = true

/-- No white space. -/
def Blank.none : Blank := ⟨[], by simp⟩

theorem Blank.not_mem (space : Blank) {c : Char} (hspace : isSpace c = false) : c ∉ space.text := by
  intro hmem
  rw [space.spaces c hmem] at hspace
  cases hspace

/-- Whether a character may stand in a name. -/
def isNameChar (c : Char) : Bool :=
  !isSpace c && !(['<', '>', '&', '/', '=', '"', '\'', '!', '?'].contains c)

/-- The name of an element, an attribute or an instruction. -/
structure Name where
  text : Text
  ne_nil : text ≠ []
  nameChars : ∀ c ∈ text, isNameChar c = true

theorem Name.not_mem (name : Name) {c : Char} (hchar : isNameChar c = false) : c ∉ name.text := by
  intro hmem
  rw [name.nameChars c hmem] at hchar
  cases hchar

theorem Name.not_space (name : Name) : ∀ c ∈ name.text, !isSpace c := by
  intro c hc
  have hchar := name.nameChars c hc
  rw [isNameChar, Bool.and_eq_true] at hchar
  exact hchar.1

/-- A text in which the text that closes it does not stand. -/
structure Enclosed (closing : Text) where
  text : Text
  unclosed : ¬ closing <:+: text

/-- The characters that can be referred to without being declared. -/
inductive Predefined
  | lt
  | gt
  | amp
  | apos
  | quot
  deriving DecidableEq, Repr

namespace Predefined

def name : Predefined → Text
  | lt => "lt"
  | gt => "gt"
  | amp => "amp"
  | apos => "apos"
  | quot => "quot"

def char : Predefined → Char
  | lt => '<'
  | gt => '>'
  | amp => '&'
  | apos => '\''
  | quot => '"'

end Predefined

/-- A character of an attribute value. -/
inductive ValueChar
  | literal (c : Char)
  | reference (entity : Predefined)
  deriving DecidableEq, Repr

namespace ValueChar

def write : ValueChar → Text
  | literal c => [c]
  | reference entity => '&' :: entity.name ++ [';']

def meaning : ValueChar → Char
  | literal c => c
  | reference entity => entity.char

end ValueChar

/-- What an attribute value stands between. -/
inductive Quote
  | double
  | single
  deriving DecidableEq, Repr

def Quote.char : Quote → Char
  | double => '"'
  | single => '\''

/-- An attribute value. -/
structure Value where
  quote : Quote
  chars : List ValueChar
  literals : ∀ c, .literal c ∈ chars → c ≠ '<' ∧ c ≠ '&' ∧ c ≠ quote.char

namespace Value

/-- What stands between the quotes. -/
def written (value : Value) : Text :=
  value.chars.flatMap ValueChar.write

def meaning (value : Value) : Text :=
  value.chars.map ValueChar.meaning

end Value

theorem Value.quote_not_mem_written (value : Value) : value.quote.char ∉ value.written := by
  intro hmem
  obtain ⟨item, hitem, hc⟩ := List.mem_flatMap.mp hmem
  cases item with
  | literal c =>
    exact (value.literals c hitem).2.2 (List.mem_singleton.mp hc).symm
  | reference entity =>
    revert hc
    cases value.quote <;> cases entity <;> decide

/-- An attribute with the white space in front of it. -/
structure Attribute where
  lead : Blank
  lead_ne_nil : lead.text ≠ []
  key : Name
  /-- what stands in front of the `=` -/
  before : Blank
  /-- what stands behind the `=` -/
  behind : Blank
  value : Value

namespace Attribute

/-- An attribute without the white space in front of it. -/
def assignment (item : Attribute) : Text :=
  item.key.text ++ item.before.text ++ '=' :: item.behind.text ++
    item.value.quote.char :: item.value.written ++ [item.value.quote.char]

def write (item : Attribute) : Text :=
  item.lead.text ++ item.assignment

end Attribute

/-- What a start tag says of its element. -/
structure Head where
  name : Name
  attributes : List Attribute
  distinct : (attributes.map fun item => item.key.text).Nodup
  /-- the white space behind all attributes -/
  space : Blank

namespace Head

/-- What stands behind the name. -/
def rest (head : Head) : Text :=
  head.attributes.flatMap Attribute.write ++ head.space.text

def write (head : Head) : Text :=
  head.name.text ++ head.rest

/-- The attributes with the meanings of their values. -/
def meanings (head : Head) : List (Text × Text) :=
  head.attributes.map fun item => (item.key.text, item.value.meaning)

def startTag (head : Head) : Text :=
  '<' :: head.write ++ ['>']

def emptyTag (head : Head) : Text :=
  '<' :: head.write ++ ['/', '>']

/-- The end tag of an element, with white space behind the name. -/
def endTag (head : Head) (space : Blank) : Text :=
  '<' :: '/' :: (head.name.text ++ space.text) ++ ['>']

end Head

/-- Attributes with white space in front of them begin with white space. -/
theorem isSpace_head?_flatMap {α : Type} {lead : α → Blank} {rest : α → Text} {items : List α}
    (hlead : ∀ item ∈ items, (lead item).text ≠ []) (space : Blank) :
    ∀ c ∈ (items.flatMap (fun item => (lead item).text ++ rest item) ++ space.text).head?,
      isSpace c = true := by
  intro c hc
  cases items with
  | nil => exact space.spaces c (List.mem_of_mem_head? hc)
  | cons item items =>
    obtain ⟨d, t, hcons⟩ := List.exists_cons_of_ne_nil (hlead item List.mem_cons_self)
    rw [List.flatMap_cons, hcons] at hc
    have hd : d = c := Option.some.inj hc
    exact (lead item).spaces c (by simp [hcons, hd])

theorem Head.isSpace_head?_rest (head : Head) : ∀ c ∈ head.rest.head?, isSpace c = true :=
  isSpace_head?_flatMap (fun item _ => item.lead_ne_nil) head.space

/-- Neither end of what a start tag says of its element is a slash. -/
theorem Head.head?_write (head : Head) :
    ∃ c t, head.write = c :: t ∧ c ≠ '/' ∧ c ≠ '!' ∧ c ≠ '?' := by
  obtain ⟨c, t, hname⟩ := List.exists_cons_of_ne_nil head.name.ne_nil
  have hchar := head.name.nameChars c (by simp [hname])
  refine ⟨c, t ++ head.rest, by rw [write, hname, List.cons_append], ?_, ?_, ?_⟩ <;> rintro rfl
  all_goals exact absurd hchar (by decide)

theorem Head.getLast?_write (head : Head) : head.write.getLast? ≠ some '/' := by
  have hspace : head.space.text.getLast? ≠ some '/' := fun hlast =>
    absurd (head.space.spaces _ (List.mem_of_getLast? hlast)) (by decide)
  have hname : head.name.text.getLast? ≠ some '/' := fun hlast =>
    head.name.not_mem (by decide) (List.mem_of_getLast? hlast)
  have hattributes : (head.attributes.flatMap Attribute.write).getLast? ≠ some '/' := by
    induction head.attributes with
    | nil => simp
    | cons item attributes ih =>
      have hitem : item.write.getLast? = some item.value.quote.char := by
        rw [Attribute.write, Attribute.assignment, List.getLast?_append, List.getLast?_append]
        rfl
      have hquote : item.value.quote.char ≠ '/' := by cases item.value.quote <;> decide
      rw [List.flatMap_cons, List.getLast?_append, hitem]
      cases hlast : (attributes.flatMap Attribute.write).getLast? with
      | none => simpa using hquote
      | some c => rwa [hlast] at ih
  rw [write, rest, List.getLast?_append, List.getLast?_append]
  cases hs : head.space.text.getLast? with
  | some c => rwa [hs] at hspace
  | none =>
    cases ha : (head.attributes.flatMap Attribute.write).getLast? with
    | some c => rwa [ha] at hattributes
    | none => exact hname

/-- What may stand outside the root element as well as in an element. -/
inductive Misc
  | blank (space : Blank)
  | comment (content : Enclosed "-->")
  /-- also the declaration at the top of a document -/
  | instruction (target : Name) (content : Enclosed "?>")

namespace Misc

def write : Misc → Text
  | blank space => space.text
  | comment content => "<!--" ++ content.text ++ "-->"
  | instruction target content => "<?" ++ target.text ++ content.text ++ "?>"

end Misc

/-- A part of what an element holds that is no element. -/
inductive Leaf
  | misc (part : Misc)
  | text (t : Text) (plain : ∀ c ∈ t, c ≠ '<' ∧ c ≠ '&')
  | reference (name : Text) (plain : ∀ c ∈ name, c ≠ ';' ∧ c ≠ '&' ∧ c ≠ '<')
  | characterData (content : Enclosed "]]>")

namespace Leaf

def write : Leaf → Text
  | misc part => part.write
  | text t _ => t
  | reference name _ => '&' :: name ++ [';']
  | characterData content => "<![CDATA[" ++ content.text ++ "]]>"

end Leaf

/-- What an element holds. -/
inductive Content
  | nil
  | leaf (part : Leaf) (rest : Content)
  /-- a self-closed element -/
  | empty (head : Head) (rest : Content)
  /-- an element with the white space in its end tag -/
  | element (head : Head) (inner : Content) (space : Blank) (rest : Content)

namespace Content

def write : Content → Text
  | nil => []
  | leaf part rest => part.write ++ rest.write
  | empty head rest => head.emptyTag ++ rest.write
  | element head inner space rest =>
    head.startTag ++ (inner.write ++ head.endTag space) ++ rest.write

end Content

end Stencil.Markup
