import Stencil.Toml.Reader

namespace Stencil.Config

open Toml (Value Entries)

/-- The table `site`, as it is written. -/
structure SiteDocument where
  rootPath : Option Text
  skin : Option Text
  notFound : Option Text
  cssPath : Option Text
  jsPath : Option Text
  deriving DecidableEq, Repr

/-- A configuration document: what its tables `site`, `plugins` and `settings` say. Everything else
in it is passed over, except that the numbers must be in range. -/
structure Document where
  site : SiteDocument
  load : List Text
  /-- in the order of their keys -/
  settings : List (Text × Text)
  deriving DecidableEq, Repr

/-- The values of keys in a table. Those of all other keys are passed over if their numbers are in
range. -/
def valuesOf (keys : List Text) (entries : Entries) : Option (List (Option Value)) :=
  if entries.all fun (key, value) => keys.any (· = key) || value.isInRange then
    some (keys.map fun key => entries.lookup key)
  else none

/-- The values of fields: by their keys from a table, or by their places from an array. Further
items of an array are not looked at. -/
def fieldValues (keys : List Text) (value : Value) : Option (List (Option Value)) :=
  match value.entries?, value.items? with
  | some entries, _ => valuesOf keys entries
  | none, some items => some (keys.zipIdx.map fun (_, i) => items[i]?)
  | none, none => none

/-- A field that may be left out and is a text otherwise. -/
def optionalText : Option Value → Option (Option Text)
  | none => some none
  | some value => value.text?.map some

/-- The table `site`. -/
def readSite (value : Value) : Option SiteDocument :=
  (fieldValues ["root_path", "skin", "not_found", "css_path", "js_path"] value).bind fun fields =>
    match fields.mapM optionalText with
    | some [rootPath, skin, notFound, cssPath, jsPath] =>
      some ⟨rootPath, skin, notFound, cssPath, jsPath⟩
    | _ => none

/-- The table `plugins`, which has one field. -/
def readPlugins (value : Value) : Option (List Text) :=
  (fieldValues ["load"] value).bind fun fields =>
    match fields with
    | [some names] => names.items?.bind fun items => items.mapM Value.text?
    | _ => some []

/-- Entries in the order of their keys. -/
def sortByKey (entries : List (Text × Text)) : List (Text × Text) :=
  entries.mergeSort fun a b => Text.notAfter a.1 b.1

/-- An entry whose value is a text. -/
def settingOf (entry : Text × Value) : Option (Text × Text) :=
  entry.2.text?.map fun text => (entry.1, text)

/-- The table `settings`. -/
def readSettings (value : Value) : Option (List (Text × Text)) :=
  value.entries?.bind fun entries => (entries.mapM settingOf).map sortByKey

/-- What the entries of a document say. -/
def ofEntries (entries : Entries) : Option Document :=
  (valuesOf ["site", "plugins", "settings"] entries).bind fun tables =>
    match tables with
    | [site, plugins, settings] => do
      let site ← (site.map readSite).getD (some ⟨none, none, none, none, none⟩)
      let load ← (plugins.map readPlugins).getD (some [])
      let settings ← (settings.map readSettings).getD (some [])
      return ⟨site, load, settings⟩
    | _ => none

/-- Reads a configuration document. -/
def readDocument (text : Text) : Option Document :=
  (Toml.read text).bind ofEntries

end Stencil.Config
