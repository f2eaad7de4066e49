import Stencil.Markup.SelfClosed
import Stencil.Page.Document
import Stencil.Path
import Stencil.Text.Blank

namespace Stencil

/-- What is put in front of the links of a page. -/
structure AssetPaths where
  /-- of all links -/
  rootPath : Text
  /-- of stylesheets, behind the root path -/
  cssPath : Text
  /-- of scripts, behind the root path -/
  jsPath : Text
  deriving DecidableEq, Repr

/-- A page that is ready to be rendered. -/
structure Page where
  path : Option Text
  title : Option Text
  content : Text
  plugins : List Text
  scripts : List Text
  styles : List Text
  metadata : Text
  deriving DecidableEq, Repr

namespace Page

/-- The page that has an empty title and nothing else. -/
def empty : Page :=
  ⟨none, some [], [], [], [], [], []⟩

/-- A link with its prefixes. One that names a protocol has none. -/
def href (rootPath directory link : Text) : Text :=
  if Text.holds "://" link then link else rootPath ++ directory ++ link

/-- The link that an element holds. -/
def link (element : Element) : Text :=
  Text.trim element.innerText

/-- The tags that load a script. -/
def scriptTag (assets : AssetPaths) (element : Element) : Text :=
  "<script src=\"".toList ++ href assets.rootPath assets.jsPath (link element) ++
    "\" type=\"text/javascript\"></script>".toList

/-- The tag that loads a stylesheet. -/
def styleTag (assets : AssetPaths) (element : Element) : Text :=
  "<link rel=\"stylesheet\" href=\"".toList ++ href assets.rootPath assets.cssPath (link element) ++
    "\" media=\"".toList ++ (element.attr "media").getD [] ++ "\" />".toList

/-- The elements of a name. -/
def fields (elements : List Element) (name : Text) : List Element :=
  elements.filter fun element => element.name = name

/-- The page that a document describes. Of several titles or contents the first one counts. -/
def ofElements (assets : AssetPaths) (elements : List Element) : Page where
  path := none
  title := (element elements "title").map Element.inner
  content := ((element elements "content").map fun e => Markup.expandSelfClosed e.inner).getD []
  plugins := (fields elements "plugin").map link
  scripts := (fields elements "js").map (scriptTag assets)
  styles := (fields elements "css").map (styleTag assets)
  metadata := (fields elements "meta").flatMap Element.outer

/-- Reads a page from a document. -/
def ofDocument (assets : AssetPaths) (document : Text) : Except DocumentError Page :=
  (parse document).map (ofElements assets)

/-- The directory that the files of a page are looked up in. -/
def baseDir (page : Page) : Text :=
  (page.path.bind Path.parent).getD []

end Page

end Stencil
