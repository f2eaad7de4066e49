import Stencil.Registry

namespace Stencil

/-- A plugin on offer, in the state in which it starts. It is inert until a load request activates
it; then it waits to be registered. -/
structure CatalogEntry (η : Type) where
  name : Text
  fresh : η
  active : Bool

/-- Entries in the order in which they were added. -/
abbrev Catalog (η : Type) := List (CatalogEntry η)

namespace Catalog

variable {η : Type}

/-- The names on offer. -/
def names (catalog : Catalog η) : List Text :=
  catalog.map CatalogEntry.name

/-- Whether a name is on offer. -/
def contains (catalog : Catalog η) (name : Text) : Bool :=
  catalog.any fun entry => entry.name = name

/-- Adds a plugin whose name is new; `none` if it is taken. -/
def register? (catalog : Catalog η) (name : Text) (fresh : η) : Option (Catalog η) :=
  if catalog.contains name then none else some (catalog ++ [⟨name, fresh, false⟩])

/-- Adds a plugin, unless its name is taken. -/
def register (catalog : Catalog η) (name : Text) (fresh : η) : Catalog η :=
  (catalog.register? name fresh).getD catalog

/-- Marks an entry to be registered; `none` if there is no such entry. -/
def activate? (catalog : Catalog η) (name : Text) : Option (Catalog η) :=
  if catalog.contains name then
    some (catalog.map fun entry =>
      if entry.name = name then { entry with active := true } else entry)
  else none

/-- The active entries whose names are not registered. -/
def pending (catalog : Catalog η) (registry : Registry η) : List (CatalogEntry η) :=
  catalog.filter fun entry => entry.active && !registry.contains entry.name

end Catalog

end Stencil
