import Stencil.Catalog
import Stencil.Path

namespace Stencil

/-- What all directives of a render and all plugins share: plugins `η` in a world `ω`. -/
structure Context (η ω : Type) where
  /-- what the directive `root` stands for -/
  rootPath : Text
  /-- where included files are looked up -/
  baseDir : Text
  registry : Registry η
  catalog : Catalog η
  world : ω

namespace Context

variable {η ω : Type}

/-- A context in which no plugin is registered. -/
def new (rootPath baseDir : Text) (catalog : Catalog η) (world : ω) : Context η ω :=
  ⟨rootPath, baseDir, .empty, catalog, world⟩

/-- The root path of a context for which none is given. -/
def defaultRoot : Text := ['/']

/-- The base directory of a context for which none is given. -/
def defaultBase : Text := ['.']

/-- What plugins may see. -/
def view [Offers η] (ctx : Context η ω) : View ω where
  rootPath := ctx.rootPath
  baseDir := ctx.baseDir
  handles := ctx.registry.handles.map Handle.view
  catalog := ctx.catalog.names
  world := ctx.world

/-- Registers every active entry of the catalog that is not registered yet. -/
def instantiate (ctx : Context η ω) : Context η ω :=
  { ctx with
    registry := (ctx.catalog.pending ctx.registry).foldl
      (fun registry entry => registry.register entry.name entry.fresh) ctx.registry }

/-- Puts a plugin back. -/
def restore (ctx : Context η ω) (name : Text) (plugin : η) : Context η ω :=
  { ctx with registry := ctx.registry.restore name plugin }

/-- Reads a file of the world. -/
def read [Reads ω] (ctx : Context η ω) (path : Text) : Except ReadError Text × Context η ω :=
  let (result, world) := Reads.read path ctx.world
  (result, { ctx with world })

end Context

end Stencil
