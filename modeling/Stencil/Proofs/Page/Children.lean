import Stencil.Proofs.Markup.Attributes
import Stencil.Proofs.Page.Nesting

namespace Stencil.Page

open Markup

/-- The parts of a page document, in the order in which they are written. -/
structure Source where
  /-- the declaration with what stands between it and the root element -/
  prolog : List Misc
  root : Head
  content : Content
  /-- the white space in the end tag of the root element -/
  space : Blank

def Source.write (source : Source) : Text :=
  source.prolog.flatMap Misc.write ++
    (source.root.startTag ++ (source.content.write ++ source.root.endTag source.space))

/-- The elements that a content holds, without those inside others. -/
def elements : Content → List Element
  | .nil => []
  | .leaf _ rest => elements rest
  | .empty head rest =>
    ⟨head.name.text, head.meanings, [], head.emptyTag⟩ :: elements rest
  | .element head inner space rest =>
    ⟨head.name.text, head.meanings, inner.write,
      head.startTag ++ (inner.write ++ head.endTag space)⟩ :: elements rest

section Content

/-- A content holds the elements that were written in it. -/
theorem nests_write (content : Content) : Nests content.write (elements content) := by
  induction content with
  | nil => exact .nil
  | leaf part others ih =>
    cases part with
    | misc part =>
      cases part with
      | blank space => exact .plain (fun c hc => isPlain_of_isSpace (space.spaces c hc)) ih
      | comment content => exact .leaf (isToken_comment content) trivial ih
      | instruction target content => exact .leaf (isToken_instruction target content) trivial ih
    | text t hplain =>
      refine .plain (fun c hc => ?_) ih
      simpa [Token.isPlain] using hplain c hc
    | reference name hname => exact .leaf (isToken_reference hname) trivial ih
    | characterData content => exact .leaf (isToken_characterData content) trivial ih
  | empty head others ih =>
    have hnests := Nests.empty (isToken_emptyTag head) head.attributes_tag ih
    rwa [head.name_tag] at hnests
  | element head inner space others ihInner ih =>
    have hname : '<' ∉ head.name.text := head.name.not_mem (by decide)
    have hspace : '<' ∉ space.text := space.not_mem (by decide)
    have hclosing := isToken_endTag head space
    rw [← head.name_tag] at hclosing
    have hnests := Nests.element (isToken_startTag head) head.attributes_tag ihInner hclosing
      (by simp [hname, hspace]) ih
    rwa [head.name_tag] at hnests

end Content

section Parse

theorem prolog_write (prolog : List Misc) : Prolog (prolog.flatMap Misc.write) := by
  induction prolog with
  | nil => exact .nil
  | cons part prolog ih =>
    rw [List.flatMap_cons]
    cases part with
    | blank space => exact .blank space ih
    | comment content => exact .token (isToken_comment content) (.inl rfl) ih
    | instruction target content =>
      exact .token (isToken_instruction target content) (.inr (.inl rfl)) ih

theorem passed_prolog (prolog : List Misc) : Passed (prolog.flatMap Misc.write) :=
  (prolog_write prolog).passed

/-- A page does not begin with a mark of the byte order. -/
theorem head?_write_source (source : Source) (behind : Text) :
    (source.write ++ behind).head? ≠ some '\ufeff' := by
  rw [Source.write, List.append_assoc, List.append_assoc]
  exact (prolog_write source.prolog).head?_append (isToken_startTag source.root) _

/-- A page is read as the elements that its root element holds, in their order. Each has the name
and the attributes of its start tag, with what the values mean, and between its tags and from its
first to its last character it is what was written. What stands behind the root element is not
read. -/
theorem parse_write_source (source : Source) (behind : Text) :
    parse (source.write ++ behind) = .ok (elements source.content) := by
  let front := source.prolog.flatMap Misc.write
  let root := source.root
  let rest := root.endTag source.space ++ behind
  have hwrite : source.write ++ behind =
      front ++ (root.startTag ++ (source.content.write ++ rest)) := by
    simp only [Source.write, List.append_assoc, front, root, rest]
  rw [parse, if_neg (head?_write_source source behind)]
  generalize source.write ++ behind = document at hwrite
  have hcontent : document = front ++ root.startTag ++ (source.content.write ++ rest) := by
    rw [hwrite, List.append_assoc]
  calc elementsFrom document .prolog 0 (Token.ofText document)
      = elementsFrom document .prolog 0
          (Token.ofText (front ++ (root.startTag ++ (source.content.write ++ rest)))) := by
        rw [← hwrite]
    _ = elementsFrom document .prolog (Text.bytes front)
          (Token.ofText (root.startTag ++ (source.content.write ++ rest))) := by
        rw [passed_prolog, Nat.zero_add]
    _ = elementsFrom document (.root root.name.text) (Text.bytes (front ++ root.startTag))
          (Token.ofText (source.content.write ++ rest)) := by
        rw [isToken_startTag, Text.bytes_append, ← root.name_tag]
        rfl
    _ = (elementsFrom document (.root root.name.text)
          (Text.bytes (front ++ root.startTag ++ source.content.write)) (Token.ofText rest)).map
            (elements source.content ++ ·) :=
        (nests_write source.content).elementsFrom_root hcontent
    _ = .ok (elements source.content) := by
        rw [isToken_endTag]
        simp [elementsFrom, root, Except.map]

/-- A child may hold an element of its own name, and a comment that looks like its end. -/
example :
    let item : Head := ⟨⟨"a", by decide, by simp [isNameChar, isSpace]⟩, [], by simp, .none⟩
    let comment : Enclosed "-->" := ⟨"</a>", by decide⟩
    let inner : Content := .leaf (.misc (.comment comment)) (.element item .nil .none .nil)
    let page : Head := ⟨⟨"page", by decide, by simp [isNameChar, isSpace]⟩, [], by simp, .none⟩
    let source : Source := ⟨[], page, .element item inner .none .nil, .none⟩
    source.write = "<page><a><!--</a>--><a></a></a></page>" ∧
      elements source.content =
        [⟨"a", [], "<!--</a>--><a></a>", "<a><!--</a>--><a></a></a>"⟩] := by
  decide +kernel

end Parse

end Stencil.Page
