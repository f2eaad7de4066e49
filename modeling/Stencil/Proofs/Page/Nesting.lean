import Stencil.Page.Document
import Stencil.Proofs.Markup.Cut

namespace Stencil.Page

open Markup

/-- Tokens that neither begin nor end an element. -/
def IsLeaf : TokenKind → Prop
  | .text | .reference | .comment | .characterData | .instruction => True
  | _ => False

/-- The contents of elements, with the elements that stand in them but in no other: the name and the
attributes of each, what stands between its tags, and all of it. -/
inductive Nests : Text → List Element → Prop
  | nil : Nests [] []
  | plain {t rest : Text} {held : List Element} (hplain : ∀ c ∈ t, Token.isPlain c = true)
      (hrest : Nests rest held) : Nests (t ++ rest) held
  | leaf {kind : TokenKind} {source rest : Text} {held : List Element}
      (htoken : IsToken kind source) (hleaf : IsLeaf kind) (hrest : Nests rest held) :
      Nests (source ++ rest) held
  | empty {tag : Tag} {attributes : List (Text × Text)} {source rest : Text} {held : List Element}
      (htoken : IsToken (.emptyTag tag) source) (hattributes : tag.attributes = .ok attributes)
      (hrest : Nests rest held) :
      Nests (source ++ rest) (⟨tag.name, attributes, [], source⟩ :: held)
  | element {tag : Tag} {attributes : List (Text × Text)} {opening inner closing rest : Text}
      {within held : List Element} (hopening : IsToken (.startTag tag) opening)
      (hattributes : tag.attributes = .ok attributes) (hinner : Nests inner within)
      (hclosing : IsToken (.endTag tag.name) ('<' :: '/' :: closing)) (hmark : '<' ∉ closing)
      (hrest : Nests rest held) :
      Nests (opening ++ (inner ++ '<' :: '/' :: closing) ++ rest)
        (⟨tag.name, attributes, inner, opening ++ (inner ++ '<' :: '/' :: closing)⟩ :: held)

section Leaves

theorem elementsFrom_cons_of_isLeaf {kind : TokenKind} (hleaf : IsLeaf kind) (document : Text)
    (place : Place) (offset : Nat) (source : Text) (rest : List Token) :
    elementsFrom document place offset (⟨kind, source⟩ :: rest) =
      elementsFrom document place (offset + Text.bytes source) rest := by
  cases kind with
  | text | reference | comment | characterData | instruction => cases place <;> rfl
  | startTag _ | emptyTag _ | endTag _ | doctype | fault _ => cases hleaf

/-- A text that is passed over wherever it stands. -/
def Passed (t : Text) : Prop :=
  ∀ document place offset rest,
    elementsFrom document place offset (Token.ofText (t ++ rest)) =
      elementsFrom document place (offset + Text.bytes t) (Token.ofText rest)

theorem Passed.nil : Passed [] := fun _ _ _ _ => rfl

theorem Passed.append {a b : Text} (ha : Passed a) (hb : Passed b) : Passed (a ++ b) := by
  intro document place offset rest
  rw [List.append_assoc, ha, hb, Text.bytes_append, Nat.add_assoc]

theorem passed_of_isToken {kind : TokenKind} {source : Text} (htoken : IsToken kind source)
    (hleaf : IsLeaf kind) : Passed source := by
  intro document place offset rest
  rw [htoken rest, elementsFrom_cons_of_isLeaf hleaf]

/-- Text that is read up to where it ends. -/
theorem elementsFrom_ofText (document : Text) (place : Place) (offset : Nat) (t : Text) :
    elementsFrom document place offset (Token.ofText t) =
      elementsFrom document place (offset + Text.bytes (t.takeWhile Token.isPlain))
        (Token.ofText (t.dropWhile Token.isPlain)) := by
  cases t with
  | nil => rfl
  | cons c r =>
    cases hplain : Token.isPlain c with
    | false => simp [hplain, Text.bytes]
    | true =>
      rw [Token.ofText_cons_of_plain hplain,
        elementsFrom_cons_of_isLeaf (show IsLeaf .text from trivial),
        List.takeWhile_cons_of_pos hplain, List.dropWhile_cons_of_pos hplain]

/-- Plain text is passed over, also where the text behind it belongs to the same token. -/
theorem passed_of_isPlain {t : Text} (hplain : ∀ c ∈ t, Token.isPlain c = true) : Passed t := by
  intro document place offset rest
  rw [elementsFrom_ofText, List.takeWhile_append_of_pos hplain,
    List.dropWhile_append_of_pos hplain, elementsFrom_ofText document place (offset + _) rest,
    Text.bytes_append, Nat.add_assoc]

theorem isPlain_of_isSpace {c : Char} (hspace : isSpace c = true) : Token.isPlain c = true := by
  rw [Token.isPlain, Bool.and_eq_true, decide_eq_true_iff, decide_eq_true_iff]
  constructor <;> rintro rfl <;> cases hspace

end Leaves

section Reading

variable {document root content rest : Text} {held : List Element}

theorem elementsFrom_child_emptyTag (child : OpenChild) (offset : Nat) (tag : Tag) (source : Text)
    (rest : List Token) :
    elementsFrom document (.child root child) offset (⟨.emptyTag tag, source⟩ :: rest) =
      elementsFrom document (.child root child) (offset + Text.bytes source) rest := rfl

theorem elementsFrom_child_startTag (child : OpenChild) (offset : Nat) (tag : Tag) (source : Text)
    (rest : List Token) :
    elementsFrom document (.child root child) offset (⟨.startTag tag, source⟩ :: rest) =
      elementsFrom document (.child root { child with opened := tag.name :: child.opened })
        (offset + Text.bytes source) rest := rfl

/-- An end tag closes the element that was opened last. -/
theorem elementsFrom_child_endTag (child : OpenChild) (offset : Nat) (name source : Text)
    (rest : List Token) :
    elementsFrom document (.child root { child with opened := name :: child.opened }) offset
        (⟨.endTag name, source⟩ :: rest) =
      elementsFrom document (.child root child) (offset + Text.bytes source) rest := by
  simp [elementsFrom]

/-- What a child holds is read up to its end, and leaves open what was open before. -/
theorem Nests.elementsFrom_child (hcontent : Nests content held) (child : OpenChild) (offset : Nat)
    (rest : Text) :
    elementsFrom document (.child root child) offset (Token.ofText (content ++ rest)) =
      elementsFrom document (.child root child) (offset + Text.bytes content)
        (Token.ofText rest) := by
  induction hcontent generalizing child offset rest with
  | nil => rfl
  | plain hplain _ ih =>
    rw [List.append_assoc, passed_of_isPlain hplain, ih, Text.bytes_append, Nat.add_assoc]
  | leaf htoken hleaf _ ih =>
    rw [List.append_assoc, passed_of_isToken htoken hleaf, ih, Text.bytes_append, Nat.add_assoc]
  | empty htoken _ _ ih =>
    rw [List.append_assoc, htoken, elementsFrom_child_emptyTag, ih, Text.bytes_append,
      Nat.add_assoc]
  | element hopening _ _ hclosing _ _ ihInner ih =>
    simp only [List.append_assoc, Text.bytes_append, ← Nat.add_assoc]
    rw [hopening, elementsFrom_child_startTag, ihInner, hclosing, elementsFrom_child_endTag, ih]

/-- An element that is written in a document is cut out of it whole. -/
theorem part_append {front source rest : Text} (hdocument : document = front ++ source ++ rest) :
    part document (Text.bytes front) (Text.bytes front + Text.bytes source) = .ok source := by
  rw [part, hdocument, Text.slice_append]

variable {tag : Tag} {attributes : List (Text × Text)} {front opening inner closing : Text}

/-- A child is closed with what was written in it: the last `</` is that of its end tag. -/
theorem closeChild_append (name : Text) (attributes : List (Text × Text)) (hmark : '<' ∉ closing)
    (hdocument : document = front ++ (opening ++ (inner ++ '<' :: '/' :: closing)) ++ rest) :
    closeChild document
        ⟨name, attributes, Text.bytes front, Text.bytes front + Text.bytes opening, []⟩
        (Text.bytes front + Text.bytes (opening ++ (inner ++ '<' :: '/' :: closing))) =
      .ok ⟨name, attributes, inner, opening ++ (inner ++ '<' :: '/' :: closing)⟩ := by
  have htail : part document (Text.bytes front + Text.bytes opening)
      (Text.bytes front + Text.bytes (opening ++ (inner ++ '<' :: '/' :: closing))) =
        .ok (inner ++ '<' :: '/' :: closing) := by
    have hinner : document = front ++ opening ++ (inner ++ '<' :: '/' :: closing) ++ rest := by
      rw [hdocument, List.append_assoc front opening]
    rw [Text.bytes_append opening, ← Nat.add_assoc, ← Text.bytes_append front]
    exact part_append hinner
  have hends : '<' ∉ ['/'] ++ closing := by simpa using hmark
  have hlast : Text.beforeLast "</" (inner ++ '<' :: '/' :: closing) = some inner :=
    Text.beforeLast_append hends inner
  simp only [closeChild, htail, part_append hdocument, bind, Except.bind, hlast, Option.getD_some]
  rfl

theorem attributesOf_ok (hattributes : tag.attributes = .ok attributes) :
    attributesOf tag = .ok attributes := by
  rw [attributesOf, hattributes]
  rfl

theorem elementsFrom_root_startTag (hattributes : tag.attributes = .ok attributes) (offset : Nat)
    (source : Text) (rest : List Token) :
    elementsFrom document (.root root) offset (⟨.startTag tag, source⟩ :: rest) =
      elementsFrom document
        (.child root ⟨tag.name, attributes, offset, offset + Text.bytes source, []⟩)
        (offset + Text.bytes source) rest := by
  simp only [elementsFrom, attributesOf_ok hattributes, bind, Except.bind]

theorem elementsFrom_root_emptyTag {source : Text} (hattributes : tag.attributes = .ok attributes)
    (hdocument : document = front ++ source ++ rest) (tokens : List Token) :
    elementsFrom document (.root root) (Text.bytes front) (⟨.emptyTag tag, source⟩ :: tokens) =
      (elementsFrom document (.root root) (Text.bytes (front ++ source)) tokens).map
        (⟨tag.name, attributes, [], source⟩ :: ·) := by
  simp only [elementsFrom, attributesOf_ok hattributes, part_append hdocument, bind, Except.bind,
    Text.bytes_append]
  cases elementsFrom document (.root root) _ tokens <;> rfl

theorem elementsFrom_child_close {child : OpenChild} {element : Element} {offset : Nat}
    {source : Text} (hopened : child.opened = [])
    (hclose : closeChild document child (offset + Text.bytes source) = .ok element)
    (rest : List Token) :
    elementsFrom document (.child root child) offset (⟨.endTag child.name, source⟩ :: rest) =
      (elementsFrom document (.root root) (offset + Text.bytes source) rest).map
        (element :: ·) := by
  simp only [elementsFrom, hopened, if_true, hclose, bind, Except.bind]
  cases elementsFrom document (.root root) _ rest <;> rfl

/-- A child is read from its start tag to its end tag. -/
theorem elementsFrom_root_element (hopening : IsToken (.startTag tag) opening)
    (hattributes : tag.attributes = .ok attributes) (hinner : Nests inner held)
    (hclosing : IsToken (.endTag tag.name) ('<' :: '/' :: closing)) (hmark : '<' ∉ closing)
    (hdocument : document = front ++ (opening ++ (inner ++ '<' :: '/' :: closing)) ++ rest) :
    elementsFrom document (.root root) (Text.bytes front)
        (Token.ofText (opening ++ (inner ++ '<' :: '/' :: closing) ++ rest)) =
      (elementsFrom document (.root root)
        (Text.bytes (front ++ (opening ++ (inner ++ '<' :: '/' :: closing))))
        (Token.ofText rest)).map
        (⟨tag.name, attributes, inner, opening ++ (inner ++ '<' :: '/' :: closing)⟩ :: ·) := by
  have hclose := closeChild_append tag.name attributes hmark hdocument
  have hstop : Text.bytes front + Text.bytes (opening ++ (inner ++ '<' :: '/' :: closing)) =
      Text.bytes front + Text.bytes opening + Text.bytes inner +
        Text.bytes ('<' :: '/' :: closing) := by
    simp only [Text.bytes_append, Nat.add_assoc]
  rw [hstop] at hclose
  rw [List.append_assoc, hopening, elementsFrom_root_startTag hattributes, List.append_assoc,
    hinner.elementsFrom_child, hclosing, Text.bytes_append front, hstop]
  exact elementsFrom_child_close rfl hclose _

/-- What the root element holds is read as the elements that stand in it. -/
theorem Nests.elementsFrom_root (hcontent : Nests content held)
    (hdocument : document = front ++ (content ++ rest)) :
    elementsFrom document (.root root) (Text.bytes front) (Token.ofText (content ++ rest)) =
      (elementsFrom document (.root root) (Text.bytes (front ++ content))
        (Token.ofText rest)).map (held ++ ·) := by
  induction hcontent generalizing front with
  | nil =>
    rw [List.nil_append, List.append_nil]
    cases elementsFrom document (.root root) (Text.bytes front) (Token.ofText rest) <;> rfl
  | plain hplain _ ih =>
    rw [List.append_assoc, ← List.append_assoc] at hdocument
    rw [List.append_assoc, passed_of_isPlain hplain, ← Text.bytes_append, ih hdocument,
      ← List.append_assoc]
  | leaf htoken hleaf _ ih =>
    rw [List.append_assoc, ← List.append_assoc] at hdocument
    rw [List.append_assoc, passed_of_isToken htoken hleaf, ← Text.bytes_append, ih hdocument,
      ← List.append_assoc]
  | empty htoken hattributes _ ih =>
    rw [List.append_assoc, ← List.append_assoc] at hdocument
    rw [List.append_assoc, htoken, elementsFrom_root_emptyTag hattributes hdocument, ih hdocument,
      ← List.append_assoc]
    cases elementsFrom document (.root root) _ (Token.ofText rest) <;> rfl
  | element hopening hattributes hinner hclosing hmark _ _ ih =>
    rw [List.append_assoc, ← List.append_assoc front] at hdocument
    rw [List.append_assoc, elementsFrom_root_element hopening hattributes hinner hclosing hmark
      hdocument, ih hdocument, List.append_assoc front]
    cases elementsFrom document (.root root) _ (Token.ofText rest) <;> rfl

end Reading

/-- What may stand in front of the root element: white space, comments, instructions and a document
type. -/
inductive Prolog : Text → Prop
  | nil : Prolog []
  | blank (space : Blank) {rest : Text} (hrest : Prolog rest) : Prolog (space.text ++ rest)
  | token {kind : TokenKind} {source rest : Text} (htoken : IsToken kind source)
      (hkind : kind = .comment ∨ kind = .instruction ∨ kind = .doctype) (hrest : Prolog rest) :
      Prolog (source ++ rest)

section Opening

variable {kind : TokenKind} {tag : Tag} {source prolog opening : Text}

theorem passed_doctype (htoken : IsToken .doctype source) : Passed source := by
  intro document place offset rest
  rw [htoken rest]
  cases place <;> rfl

theorem Prolog.passed (hprolog : Prolog prolog) : Passed prolog := by
  induction hprolog with
  | nil => exact .nil
  | blank space _ ih =>
    exact (passed_of_isPlain fun c hc => isPlain_of_isSpace (space.spaces c hc)).append ih
  | token htoken hkind _ ih =>
    refine .append ?_ ih
    rcases hkind with rfl | rfl | rfl
    · exact passed_of_isToken htoken trivial
    · exact passed_of_isToken htoken trivial
    · exact passed_doctype htoken

theorem head?_append_of_isToken (htoken : IsToken kind source) (rest : Text) :
    (source ++ rest).head? ≠ some '\ufeff' := by
  obtain ⟨c, r, rfl, -⟩ := htoken.exists_read
  have hplain := htoken.isPlain_eq_false
  rintro heq
  cases heq
  cases hplain

theorem Prolog.head?_append (hprolog : Prolog prolog) (hopening : IsToken kind opening)
    (rest : Text) : (prolog ++ (opening ++ rest)).head? ≠ some '\ufeff' := by
  induction hprolog with
  | nil => exact head?_append_of_isToken hopening rest
  | blank space _ ih =>
    rw [List.append_assoc, List.head?_append]
    cases hspace : space.text.head? with
    | none => exact ih
    | some c =>
      rintro heq
      cases heq
      cases space.spaces _ (List.mem_of_mem_head? hspace)
  | token htoken _ _ _ =>
    rw [List.append_assoc]
    exact head?_append_of_isToken htoken _

/-- Reading the root element begins behind its start tag. -/
theorem Prolog.parse_append (hprolog : Prolog prolog) (hopening : IsToken (.startTag tag) opening)
    (rest : Text) :
    parse (prolog ++ (opening ++ rest)) =
      elementsFrom (prolog ++ (opening ++ rest)) (.root tag.name) (Text.bytes (prolog ++ opening))
        (Token.ofText rest) := by
  rw [parse, if_neg (hprolog.head?_append hopening rest), hprolog.passed, hopening rest,
    Nat.zero_add, Text.bytes_append]
  rfl

end Opening

end Stencil.Page
