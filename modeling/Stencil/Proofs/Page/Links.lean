import Mathlib.Data.List.Forall2
import Stencil.Page.Basic
import Stencil.Proofs.Markup.Quoting

namespace Stencil.Page

open Markup

section Tags

def linkName : Name := ⟨"link", by decide, List.all_eq_true.mp rfl⟩
def scriptName : Name := ⟨"script", by decide, List.all_eq_true.mp rfl⟩
def relKey : Name := ⟨"rel", by decide, List.all_eq_true.mp rfl⟩
def hrefKey : Name := ⟨"href", by decide, List.all_eq_true.mp rfl⟩
def mediaKey : Name := ⟨"media", by decide, List.all_eq_true.mp rfl⟩
def srcKey : Name := ⟨"src", by decide, List.all_eq_true.mp rfl⟩
def typeKey : Name := ⟨"type", by decide, List.all_eq_true.mp rfl⟩

/-- The media that an element names. -/
def media (element : Element) : Text :=
  (element.attr "media").getD []

/-- A text that is one self-closed `link` with three attributes, of which `media` is as given. -/
def IsLink (media text : Text) : Prop :=
  ∃ tag rel target, IsToken (.emptyTag tag) text ∧ tag.name = "link" ∧
    tag.attributes = .ok [("rel", rel), ("href", target), ("media", media)]

/-- A text that is the start tag of a `script` with two attributes, and its end tag. -/
def IsScript (text : Text) : Prop :=
  ∃ opening tag source kind, text = opening ++ "</script>".toList ∧
    IsToken (.startTag tag) opening ∧ tag.name = "script" ∧
    tag.attributes = .ok [("src", source), ("type", kind)]

variable {assets : AssetPaths} {element : Element}

/-- What is put into the tag that loads a stylesheet. -/
def styleItems (assets : AssetPaths) (element : Element) : List (Name × Text) :=
  [(relKey, "stylesheet"), (hrefKey, href assets.rootPath assets.cssPath (link element)),
    (mediaKey, media element)]

/-- What is put into the tag that loads a script. -/
def scriptItems (assets : AssetPaths) (element : Element) : List (Name × Text) :=
  [(srcKey, href assets.rootPath assets.jsPath (link element)), (typeKey, "text/javascript")]

theorem styleTag_eq (assets : AssetPaths) (element : Element) :
    styleTag assets element =
      '<' :: (assignedBody linkName (styleItems assets element) .space ++ ['/']) ++ ['>'] := by
  have hshape : styleTag assets element = '<' :: (linkName.text ++
      assigned relKey.text "stylesheet" ++ ' ' :: hrefKey.text ++ ['=', '"']) ++
        href assets.rootPath assets.cssPath (link element) ++
        ('"' :: ' ' :: mediaKey.text ++ ['=', '"']) ++ media element ++ ['"', ' ', '/', '>'] :=
    rfl
  rw [hshape, styleItems]
  simp only [assignedBody, List.flatMap_cons, List.flatMap_nil, assigned, Blank.space,
    List.append_assoc, List.cons_append, List.nil_append, List.append_nil]

theorem scriptTag_eq (assets : AssetPaths) (element : Element) :
    scriptTag assets element =
      '<' :: assignedBody scriptName (scriptItems assets element) .none ++ ['>'] ++
        "</script>".toList := by
  have hshape : scriptTag assets element =
      '<' :: (scriptName.text ++ ' ' :: srcKey.text ++ ['=', '"']) ++
        href assets.rootPath assets.jsPath (link element) ++
        '"' :: (assigned typeKey.text "text/javascript" ++ '>' :: "</script>".toList) :=
    rfl
  rw [hshape, scriptItems]
  simp only [assignedBody, List.flatMap_cons, List.flatMap_nil, assigned, Blank.none,
    List.append_assoc, List.cons_append, List.nil_append, List.append_nil]

theorem not_mem_href_iff {c : Char} {rootPath directory target : Text} (hroot : c ∉ rootPath)
    (hdirectory : c ∉ directory) : c ∉ href rootPath directory target ↔ c ∉ target := by
  rw [href]
  split
  · rfl
  · simp [hroot, hdirectory]

theorem values_styleItems (hroot : '"' ∉ assets.rootPath) (hcss : '"' ∉ assets.cssPath)
    (hlink : '"' ∉ link element) (hmedia : '"' ∉ media element) :
    ∀ item ∈ styleItems assets element, '"' ∉ item.2 := by
  simp only [styleItems, List.forall_mem_cons]
  exact ⟨by decide, (not_mem_href_iff hroot hcss).mpr hlink, hmedia, by simp⟩

theorem values_scriptItems (hroot : '"' ∉ assets.rootPath) (hjs : '"' ∉ assets.jsPath)
    (hlink : '"' ∉ link element) : ∀ item ∈ scriptItems assets element, '"' ∉ item.2 := by
  simp only [scriptItems, List.forall_mem_cons]
  exact ⟨(not_mem_href_iff hroot hjs).mpr hlink, by decide, by simp⟩

theorem nodup_styleItems (assets : AssetPaths) (element : Element) :
    ((styleItems assets element).map fun item => item.1.text).Nodup := by
  change [relKey.text, hrefKey.text, mediaKey.text].Nodup
  decide

theorem nodup_scriptItems (assets : AssetPaths) (element : Element) :
    ((scriptItems assets element).map fun item => item.1.text).Nodup := by
  change [srcKey.text, typeKey.text].Nodup
  decide

/-- The tag that loads a stylesheet is read back with the media of its element exactly if neither
the link nor the media hold a double quote and the media mean themselves. -/
theorem isLink_styleTag_iff (hroot : '"' ∉ assets.rootPath) (hcss : '"' ∉ assets.cssPath) :
    IsLink (media element) (styleTag assets element) ↔
      '"' ∉ link element ∧ '"' ∉ media element ∧ unescapeValue (media element) = media element := by
  constructor
  · rintro ⟨tag, rel, target, htoken, -, hattributes⟩
    rw [styleTag_eq] at htoken
    obtain rfl := eq_of_isToken_emptyTag htoken
    obtain ⟨hhref, hmedia⟩ := not_mem_of_attributes linkName [(relKey, "stylesheet")] _
      (by simp) (nodup_styleItems assets element) hattributes rfl
    have hlink := (not_mem_href_iff hroot hcss).mp hhref
    rw [attributes_assignedBody linkName _ (values_styleItems hroot hcss hlink hmedia)
      (nodup_styleItems assets element)] at hattributes
    simp only [styleItems, List.map_cons, Except.ok.injEq, List.cons.injEq, Prod.mk.injEq]
      at hattributes
    exact ⟨hlink, hmedia, hattributes.2.2.1.2⟩
  · rintro ⟨hlink, hmedia, hsame⟩
    have hvalues := values_styleItems hroot hcss hlink hmedia
    have hread := attributes_assignedBody linkName .space hvalues
      (nodup_styleItems assets element)
    rw [IsLink, styleTag_eq]
    simp only [styleItems, List.map_cons, hsame] at hread
    exact ⟨_, unescapeValue "stylesheet".toList, _, isToken_assignedBody_emptyTag hvalues,
      name_assignedBody .., hread⟩

/-- The tag that loads a script is read back exactly if the link holds no double quote. -/
theorem isScript_scriptTag_iff (hroot : '"' ∉ assets.rootPath) (hjs : '"' ∉ assets.jsPath) :
    IsScript (scriptTag assets element) ↔ '"' ∉ link element := by
  rw [IsScript, scriptTag_eq]
  constructor
  · rintro ⟨opening, tag, source, kind, hsplit, htoken, -, hattributes⟩
    obtain ⟨rfl, -⟩ := List.append_inj' hsplit rfl
    obtain rfl := eq_of_isToken_startTag htoken
    obtain ⟨hhref, -⟩ := not_mem_of_attributes scriptName [] _ (by simp)
      (nodup_scriptItems assets element) hattributes rfl
    exact (not_mem_href_iff hroot hjs).mp hhref
  · intro hlink
    have hvalues := values_scriptItems hroot hjs hlink
    have hread := attributes_assignedBody scriptName .none hvalues
      (nodup_scriptItems assets element)
    have hlast : (assignedBody scriptName (scriptItems assets element) .none).getLast? ≠
        some '/' := by
      rw [getLast?_assignedBody scriptName (by simp [scriptItems])]
      decide
    exact ⟨_, _, _, _, rfl, isToken_assignedBody_startTag hvalues hlast, name_assignedBody ..,
      hread⟩

end Tags

/-- Of every page that is read, the tag of a stylesheet can be read back with the media of its
element exactly if neither its link nor its media hold a double quote and the media mean themselves,
and the tag of a script exactly if its link holds no double quote. -/
theorem links_read_back_iff {assets : AssetPaths} (hroot : '"' ∉ assets.rootPath)
    (hcss : '"' ∉ assets.cssPath) (hjs : '"' ∉ assets.jsPath) {document : Text} {page : Page}
    (hpage : ofDocument assets document = .ok page) :
    ∃ elements, parse document = .ok elements ∧
      List.Forall₂ (fun element style => IsLink (media element) style ↔ '"' ∉ link element ∧
        '"' ∉ media element ∧ unescapeValue (media element) = media element)
        (fields elements "css") page.styles ∧
      List.Forall₂ (fun element script => IsScript script ↔ '"' ∉ link element)
        (fields elements "js") page.scripts := by
  rw [ofDocument] at hpage
  cases hparse : parse document with
  | error fault =>
    rw [hparse] at hpage
    cases hpage
  | ok elements =>
    rw [hparse] at hpage
    cases hpage
    refine ⟨elements, rfl, ?_, ?_⟩
    · exact List.forall₂_map_right_iff.mpr
        (List.forall₂_same.mpr fun _ _ => isLink_styleTag_iff hroot hcss)
    · exact List.forall₂_map_right_iff.mpr
        (List.forall₂_same.mpr fun _ _ => isScript_scriptTag_iff hroot hjs)

/-- A reference in a link is kept as it is written. -/
theorem links_read_back_reference :
    let assets : AssetPaths := ⟨"/", [], []⟩
    let document : Text := "<p><css media='a, b'>c?d&amp;e</css><js>f</js></p>"
    let style : Text := "<link rel=\"stylesheet\" href=\"/c?d&amp;e\" media=\"a, b\" />"
    let script : Text := "<script src=\"/f\" type=\"text/javascript\"></script>"
    ofDocument assets document = .ok ⟨none, none, [], [], [script], [style], []⟩ ∧
      IsLink "a, b" style ∧ IsScript script := by
  intro assets document style script
  let css : Element :=
    ⟨"css", [("media", "a, b")], "c?d&amp;e", "<css media='a, b'>c?d&amp;e</css>"⟩
  let js : Element := ⟨"js", [], "f", "<js>f</js>"⟩
  have hparse : parse document = .ok [css, js] := by rfl
  have hpage : ofDocument assets document = .ok ⟨none, none, [], [], [script], [style], []⟩ := by
    rw [ofDocument, hparse]
    rfl
  obtain ⟨elements, helements, hstyles, hscripts⟩ :=
    links_read_back_iff (by decide) (by decide) (by decide) hpage
  rw [hparse] at helements
  cases helements
  have hcss : fields [css, js] "css" = [css] := by rfl
  have hjs : fields [css, js] "js" = [js] := by rfl
  rw [hcss] at hstyles
  rw [hjs] at hscripts
  have hstyle := (List.forall₂_cons.mp hstyles).1
  have hscript := (List.forall₂_cons.mp hscripts).1
  exact ⟨hpage, hstyle.mpr (by decide), hscript.mpr (by decide)⟩

/-- The quote that a reference in the media stands for ends the attribute. -/
theorem not_isLink_of_quoted_media :
    let assets : AssetPaths := ⟨"/", [], []⟩
    let document : Text := "<page><css media=\"a&quot;b\">site.css</css></page>"
    let css : Element :=
      ⟨"css", [("media", "a\"b")], "site.css", "<css media=\"a&quot;b\">site.css</css>"⟩
    let style : Text := "<link rel=\"stylesheet\" href=\"/site.css\" media=\"a\"b\" />"
    parse document = .ok [css] ∧ media css = "a\"b" ∧
      ofDocument assets document = .ok ⟨none, none, [], [], [], [style], []⟩ ∧
      ¬ IsLink "a\"b" style := by
  intro assets document css style
  have hparse : parse document = .ok [css] := by rfl
  have hpage : ofDocument assets document = .ok ⟨none, none, [], [], [], [style], []⟩ := by
    rw [ofDocument, hparse]
    rfl
  refine ⟨hparse, rfl, hpage, fun hlink => ?_⟩
  have hread := (@isLink_styleTag_iff assets css (by decide) (by decide)).mp hlink
  exact hread.2.1 (by decide)

end Stencil.Page
