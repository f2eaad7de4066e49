import Stencil.Page.Basic
import Stencil.Proofs.Page.Nesting

namespace Stencil.Page

open Markup

/-- Markup that is left when a content is cut off inside a token or inside an element. -/
inductive Broken : Text → Prop
  | token {kind : TokenKind} {source kept : Text} (htoken : IsToken kind source)
      (hkept : kept <+: source) (hne : kept ≠ []) (hcut : kept ≠ source) : Broken kept
  /-- an element of which all is left but a part of its content and its end tag -/
  | unclosed {tag : Tag} {attributes : List (Text × Text)} {opening front : Text}
      {held : List Element} (hopening : IsToken (.startTag tag) opening)
      (hattributes : tag.attributes = .ok attributes) (hfront : Nests front held) :
      Broken (opening ++ front)
  /-- an element that is cut off inside another part of its content -/
  | within {tag : Tag} {attributes : List (Text × Text)} {opening front rest : Text}
      {held : List Element} (hopening : IsToken (.startTag tag) opening)
      (hattributes : tag.attributes = .ok attributes) (hfront : Nests front held)
      (hrest : Broken rest) : Broken (opening ++ (front ++ rest))

section Cut

variable {kind : TokenKind} {document root content closing kept : Text} {held : List Element}

/-- A front of two texts in a row ends in the first one, or goes on in the second one. -/
theorem cut_append {a b : Text} (hkept : kept <+: a ++ b) :
    (kept <+: a ∧ kept ≠ a) ∨ ∃ k, kept = a ++ k ∧ k <+: b := by
  by_cases hwhole : a <+: kept
  · obtain ⟨k, rfl⟩ := hwhole
    exact .inr ⟨k, rfl, (List.prefix_append_right_inj a).mp hkept⟩
  · rcases List.prefix_or_prefix_of_prefix hkept (List.prefix_append a b) with hshort | hlong
    · refine .inl ⟨hshort, ?_⟩
      rintro rfl
      exact hwhole (List.prefix_refl _)
    · exact absurd hlong hwhole

/-- A content that is cut off, with the elements in front of the cut: whole parts are left of it,
and behind them, unless the cut lies between two parts or in plain text, a broken one. -/
def Left (kept : Text) (held : List Element) : Prop :=
  Nests kept held ∨ ∃ front rest, kept = front ++ rest ∧ Nests front held ∧ Broken rest

theorem left_of_cut {source : Text} (htoken : IsToken kind source) (hkept : kept <+: source)
    (hcut : kept ≠ source) : Left kept [] := by
  by_cases hne : kept = []
  · rw [hne]
    exact .inl .nil
  · exact .inr ⟨[], kept, rfl, .nil, .token htoken hkept hne hcut⟩

theorem Left.append {t rest : Text} {held held' : List Element}
    (hpart : ∀ {rest}, Nests rest held → Nests (t ++ rest) held') (hrest : Left rest held) :
    Left (t ++ rest) held' := by
  rcases hrest with hnests | ⟨front, broken, rfl, hnests, hbroken⟩
  · exact .inl (hpart hnests)
  · exact .inr ⟨t ++ front, broken, (List.append_assoc ..).symm, hpart hnests, hbroken⟩

/-- What is left of a content holds the first of its elements. -/
theorem Nests.left (hcontent : Nests content held) (hclosing : IsToken kind closing)
    (hkept : kept <+: content ++ closing) (hcut : kept ≠ content ++ closing) :
    ∃ held', held' <+: held ∧ Left kept held' := by
  induction hcontent generalizing kind closing kept with
  | nil => exact ⟨[], List.nil_prefix, left_of_cut hclosing hkept hcut⟩
  | plain hplain _ ih =>
    rw [List.append_assoc] at hkept hcut
    rcases cut_append hkept with ⟨hshort, -⟩ | ⟨k, rfl, hk⟩
    · have hnests := Nests.plain (fun c hc => hplain c (hshort.subset hc)) .nil
      rw [List.append_nil] at hnests
      exact ⟨[], List.nil_prefix, .inl hnests⟩
    · obtain ⟨held', hheld, hleft⟩ := ih hclosing hk fun heq => hcut (by rw [heq])
      exact ⟨held', hheld, hleft.append (.plain hplain)⟩
  | leaf htoken hleaf _ ih =>
    rw [List.append_assoc] at hkept hcut
    rcases cut_append hkept with ⟨hshort, hne⟩ | ⟨k, rfl, hk⟩
    · exact ⟨[], List.nil_prefix, left_of_cut htoken hshort hne⟩
    · obtain ⟨held', hheld, hleft⟩ := ih hclosing hk fun heq => hcut (by rw [heq])
      exact ⟨held', hheld, hleft.append (.leaf htoken hleaf)⟩
  | empty htoken hattributes _ ih =>
    rw [List.append_assoc] at hkept hcut
    rcases cut_append hkept with ⟨hshort, hne⟩ | ⟨k, rfl, hk⟩
    · exact ⟨[], List.nil_prefix, left_of_cut htoken hshort hne⟩
    · obtain ⟨held', hheld, hleft⟩ := ih hclosing hk fun heq => hcut (by rw [heq])
      exact ⟨_ :: held', List.cons_prefix_cons.mpr ⟨rfl, hheld⟩,
        hleft.append (.empty htoken hattributes)⟩
  | element hopening hattributes hinner hend hmark _ ihInner ih =>
    rw [List.append_assoc, List.append_assoc] at hkept hcut
    rcases cut_append hkept with ⟨hshort, hne⟩ | ⟨k, rfl, hk⟩
    · exact ⟨[], List.nil_prefix, left_of_cut hopening hshort hne⟩
    · rcases cut_append hk with ⟨hshort, hne⟩ | ⟨k', rfl, hk'⟩
      · obtain ⟨_, -, hnests | ⟨front, rest, rfl, hnests, hbroken⟩⟩ := ihInner hend hshort hne
        · exact ⟨[], List.nil_prefix,
            .inr ⟨[], _, rfl, .nil, .unclosed hopening hattributes hnests⟩⟩
        · exact ⟨[], List.nil_prefix,
            .inr ⟨[], _, rfl, .nil, .within hopening hattributes hnests hbroken⟩⟩
      · obtain ⟨held', hheld, hleft⟩ := ih hclosing hk' fun heq => hcut (by rw [heq])
        have hwhole := hleft.append (.element hopening hattributes hinner hend hmark)
        rw [List.append_assoc] at hwhole
        exact ⟨_ :: held', List.cons_prefix_cons.mpr ⟨rfl, hheld⟩, hwhole⟩

theorem elementsFrom_child_unclosed (hfront : Nests content held) (child : OpenChild)
    (offset : Nat) :
    elementsFrom document (.child root child) offset (Token.ofText content) =
      .error (.markup (.missingEnd child.name)) := by
  rw [← List.append_nil content, hfront.elementsFrom_child]
  rfl

/-- Broken markup in a child is noticed, however many elements are open around it. -/
theorem Broken.elementsFrom_child (hbroken : Broken content) (child : OpenChild) (offset : Nat) :
    ∃ cause, elementsFrom document (.child root child) offset (Token.ofText content) =
      .error (.markup cause) := by
  induction hbroken generalizing child offset with
  | token htoken hkept hne hcut =>
    obtain ⟨cause, hread⟩ := htoken.cut hkept hne hcut
    exact ⟨cause, by rw [hread]; rfl⟩
  | unclosed hopening _ hfront =>
    rw [hopening, elementsFrom_child_startTag]
    exact ⟨_, elementsFrom_child_unclosed hfront _ _⟩
  | within hopening _ hfront _ ih =>
    rw [hopening, elementsFrom_child_startTag, hfront.elementsFrom_child]
    exact ih _ _

/-- Broken markup in the root element is noticed. -/
theorem Broken.elementsFrom_root (hbroken : Broken content) (offset : Nat) :
    ∃ cause, elementsFrom document (.root root) offset (Token.ofText content) =
      .error (.markup cause) := by
  cases hbroken with
  | token htoken hkept hne hcut =>
    obtain ⟨cause, hread⟩ := htoken.cut hkept hne hcut
    exact ⟨cause, by rw [hread]; rfl⟩
  | unclosed hopening hattributes hfront =>
    rw [hopening, elementsFrom_root_startTag hattributes]
    exact ⟨_, elementsFrom_child_unclosed hfront _ _⟩
  | within hopening hattributes hfront hrest =>
    rw [hopening, elementsFrom_root_startTag hattributes, hfront.elementsFrom_child]
    exact hrest.elementsFrom_child _ _

end Cut

section Parse

variable {prolog opening content closing kept : Text} {tag : Tag} {held : List Element}

theorem parse_append_of_nests (hprolog : Prolog prolog)
    (hopening : IsToken (.startTag tag) opening) (hcontent : Nests content held) (rest : Text)
    (hends : ∀ document offset,
      elementsFrom document (.root tag.name) offset (Token.ofText rest) = .ok []) :
    parse (prolog ++ (opening ++ (content ++ rest))) = .ok held := by
  have hdocument : prolog ++ (opening ++ (content ++ rest)) =
      prolog ++ opening ++ (content ++ rest) := (List.append_assoc ..).symm
  rw [hprolog.parse_append hopening, hcontent.elementsFrom_root hdocument, hends]
  simp [Except.map]

/-- A whole page is read as the elements that its root element holds. -/
theorem parse_of_closed (hprolog : Prolog prolog) (hopening : IsToken (.startTag tag) opening)
    (hcontent : Nests content held) (hclosing : IsToken (.endTag tag.name) closing) :
    parse (prolog ++ (opening ++ (content ++ closing))) = .ok held := by
  refine parse_append_of_nests hprolog hopening hcontent closing fun document offset => ?_
  have htoken := hclosing []
  rw [List.append_nil] at htoken
  simp [htoken, elementsFrom]

/-- A page whose root element is not closed is read as one whose root element is. -/
theorem parse_of_open (hprolog : Prolog prolog) (hopening : IsToken (.startTag tag) opening)
    (hcontent : Nests content held) : parse (prolog ++ (opening ++ content)) = .ok held := by
  have hread := parse_append_of_nests hprolog hopening hcontent [] fun _ _ => rfl
  rwa [List.append_nil] at hread

theorem parse_of_broken {front broken : Text} (hprolog : Prolog prolog)
    (hopening : IsToken (.startTag tag) opening) (hfront : Nests front held)
    (hbroken : Broken broken) :
    ∃ cause, parse (prolog ++ (opening ++ (front ++ broken))) = .error (.markup cause) := by
  have hdocument : prolog ++ (opening ++ (front ++ broken)) =
      prolog ++ opening ++ (front ++ broken) := (List.append_assoc ..).symm
  rw [hprolog.parse_append hopening, hfront.elementsFrom_root hdocument]
  obtain ⟨cause, hread⟩ := hbroken.elementsFrom_root _
  rw [hread]
  exact ⟨cause, rfl⟩

theorem isToken_page : IsToken (.startTag ⟨"page"⟩) "<page>" :=
  isToken_of_read (c := '<') (r := "page>") rfl rfl

theorem isToken_page_end : IsToken (.endTag "page") "</page>" :=
  isToken_of_read (c := '<') (r := "/page>") rfl rfl

theorem nests_title : Nests "<title>x</title>" [⟨"title", [], "x", "<title>x</title>"⟩] := by
  have hopening : IsToken (.startTag ⟨"title"⟩) "<title>" :=
    isToken_of_read (c := '<') (r := "title>") rfl rfl
  have hclosing : IsToken (.endTag "title") ('<' :: '/' :: "title>") :=
    isToken_of_read (c := '<') (r := "/title>") rfl rfl
  have hinner : Nests "x" [] := .plain (t := "x") (by simp [Token.isPlain]) .nil
  exact .element hopening rfl hinner hclosing (by decide) .nil

/-- A page that is cut off behind the start tag of its root element, and before the end tag of that
is complete, is not read if the cut lies inside a token or inside a child, and only then. If it lies
anywhere else, the page is read as a whole one that has the children in front of the cut and no
others. -/
theorem parse_cut_off (hprolog : Prolog prolog) (hopening : IsToken (.startTag tag) opening)
    (hcontent : Nests content held) (hclosing : IsToken (.endTag tag.name) closing)
    (hkept : kept <+: content ++ closing) (hcut : kept ≠ content ++ closing) :
    parse (prolog ++ (opening ++ (content ++ closing))) = .ok held ∧
      ((∃ cause, parse (prolog ++ (opening ++ kept)) = .error (.markup cause)) ↔
        ∀ held', ¬ Nests kept held') ∧
      ∀ held', Nests kept held' → held' <+: held ∧
        parse (prolog ++ (opening ++ kept)) = .ok held' ∧
        ∀ assets, ofDocument assets (prolog ++ (opening ++ kept)) =
          .ok (ofElements assets held') := by
  obtain ⟨first, hfirst, hleft⟩ := hcontent.left hclosing hkept hcut
  refine ⟨parse_of_closed hprolog hopening hcontent hclosing, ⟨?_, fun hnone => ?_⟩,
    fun held' hheld => ?_⟩
  · rintro ⟨cause, herror⟩ held' hheld
    rw [parse_of_open hprolog hopening hheld] at herror
    cases herror
  · rcases hleft with hnests | ⟨front, broken, rfl, hfront, hbroken⟩
    · exact absurd hnests (hnone first)
    · exact parse_of_broken hprolog hopening hfront hbroken
  · have hread := parse_of_open hprolog hopening hheld
    refine ⟨?_, hread, fun assets => by rw [ofDocument, hread]; rfl⟩
    rcases hleft with hnests | ⟨front, broken, rfl, hfront, hbroken⟩
    · rw [parse_of_open hprolog hopening hnests] at hread
      cases hread
      exact hfirst
    · obtain ⟨cause, herror⟩ := parse_of_broken hprolog hopening hfront hbroken
      rw [herror] at hread
      cases hread

/-- A cut inside a child: behind a document type, the page ends in its title. -/
theorem parse_cut_off_in_title :
    Prolog "<!DOCTYPE page>" ∧ IsToken (.startTag ⟨"page"⟩) "<page>" ∧
      Nests "<title>x</title>" [⟨"title", [], "x", "<title>x</title>"⟩] ∧
      IsToken (.endTag "page") "</page>" ∧
      ("<title>x" : Text) <+: "<title>x</title>" ++ "</page>" ∧
      ("<title>x" : Text) ≠ "<title>x</title>" ++ "</page>" ∧
      ∀ held, ¬ Nests "<title>x" held := by
  have hprolog : Prolog "<!DOCTYPE page>" :=
    .token (isToken_of_read (c := '<') (r := "!DOCTYPE page>") rfl rfl) (.inr (.inr rfl)) .nil
  have hkept : ("<title>x" : Text) <+: "<title>x</title>" ++ "</page>" := by decide
  have hcut : ("<title>x" : Text) ≠ "<title>x</title>" ++ "</page>" := by decide
  refine ⟨hprolog, isToken_page, nests_title, isToken_page_end, hkept, hcut, ?_⟩
  exact (parse_cut_off hprolog isToken_page nests_title isToken_page_end hkept hcut).2.1.mp
    ⟨.missingEnd "title", by rfl⟩

/-- A cut that is not noticed: all children are there, but the root element has no end. -/
theorem parse_behind_title :
    Nests "<title>x</title>" [⟨"title", [], "x", "<title>x</title>"⟩] ∧
      IsToken (.startTag ⟨"page"⟩) "<page>" ∧ IsToken (.endTag "page") "</page>" ∧
      parse "<page><title>x</title>" = .ok [⟨"title", [], "x", "<title>x</title>"⟩] :=
  ⟨nests_title, isToken_page, isToken_page_end, rfl⟩

end Parse

end Stencil.Page
