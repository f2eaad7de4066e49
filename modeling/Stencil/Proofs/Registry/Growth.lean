import Stencil.Proofs.Registry.Names

namespace Stencil

namespace Registry

variable {η : Type}

/-- The registry after plugins have been added whose names, as far as they were free, are among
those given. -/
structure Grown (added : List Text) (registry registry' : Registry η) : Prop where
  contains : ∀ n, registry'.contains n ↔ registry.contains n ∨ n ∈ added
  isBusy : ∀ n, registry'.isBusy n = registry.isBusy n
  isStarted : ∀ n, registry'.isStarted n = registry.isStarted n

namespace Grown

variable {registry registry' registry'' : Registry η} {added added' : List Text}

theorem refl (registry : Registry η) : Grown [] registry registry where
  contains := by simp
  isBusy := fun _ => rfl
  isStarted := fun _ => rfl

theorem trans (hfirst : Grown added registry registry')
    (hsecond : Grown added' registry' registry'') :
    Grown (added ++ added') registry registry'' where
  contains := by
    intro n
    rw [hsecond.contains, hfirst.contains, List.mem_append, or_assoc]
  isBusy := fun n => (hsecond.isBusy n).trans (hfirst.isBusy n)
  isStarted := fun n => (hsecond.isStarted n).trans (hfirst.isStarted n)

end Grown

variable {registry registry' : Registry η} {name : Text} {plugin : η}

theorem grown_of_register? (hregister : registry.register? name plugin = some registry') :
    Grown [name] registry registry' := by
  have hfree := (register?_eq_some_iff.mp hregister).1
  have hlookup := lookup_register? hregister
  have hnone : registry.lookup name = none := lookup_eq_none_iff.mpr hfree
  constructor
  · intro n
    rw [← isSome_lookup, ← isSome_lookup, hlookup, List.mem_singleton]
    by_cases hn : n = name
    · simp [hn]
    · simp [hn]
  · intro n
    rw [isBusy, isBusy, hlookup]
    by_cases hn : n = name
    · simp [hn, hnone, Handle.isBusy]
    · simp [hn]
  · intro n
    rw [isStarted, isStarted, hlookup]
    by_cases hn : n = name
    · simp [hn, hnone]
    · simp [hn]

theorem grown_register (registry : Registry η) (name : Text) (plugin : η) :
    Grown [name] registry (registry.register name plugin) := by
  rw [register]
  cases hregister : registry.register? name plugin with
  | some registry' => exact grown_of_register? hregister
  | none =>
    have htaken := register?_eq_none_iff.mp hregister
    refine { Grown.refl registry with contains := fun n => ?_ }
    rw [Option.getD_none, List.mem_singleton]
    constructor
    · exact .inl
    · rintro (hcontains | rfl)
      · exact hcontains
      · exact htaken

end Registry

namespace Catalog

variable {η : Type}

/-- A catalog with the given plugins on offer, none of them active. -/
def offering (plugins : List (Text × η)) : Catalog η :=
  plugins.foldl (fun catalog (name, fresh) => catalog.register name fresh) []

/-- Whether every active entry is registered. -/
def Registered (catalog : Catalog η) (registry : Registry η) : Prop :=
  ∀ entry ∈ catalog, entry.active → registry.contains entry.name

theorem active_eq_false_of_mem_offering {plugins : List (Text × η)} {entry : CatalogEntry η}
    (hmem : entry ∈ offering plugins) : entry.active = false := by
  have hfold : ∀ catalog : Catalog η, (∀ entry ∈ catalog, entry.active = false) →
      ∀ entry ∈ plugins.foldl (fun catalog (name, fresh) => catalog.register name fresh) catalog,
        entry.active = false := by
    clear hmem
    induction plugins with
    | nil => exact fun _ hcatalog => hcatalog
    | cons plugin plugins ih =>
      obtain ⟨name, fresh⟩ := plugin
      intro catalog hcatalog
      apply ih
      intro entry hentry
      change entry ∈ catalog.register name fresh at hentry
      rw [Catalog.register, register?] at hentry
      split at hentry
      · exact hcatalog entry hentry
      · rcases List.mem_append.mp hentry with hentry | hentry
        · exact hcatalog entry hentry
        · rw [List.mem_singleton.mp hentry]
  exact hfold [] (by simp) entry hmem

/-- An entry that is active after an activation was active before, or is one of the name that was
activated. -/
theorem of_mem_activate? {catalog catalog' : Catalog η} {name : Text}
    (hactivate : catalog.activate? name = some catalog') {entry : CatalogEntry η}
    (hmem : entry ∈ catalog') (hactive : entry.active) :
    entry.name = name ∨ ∃ old ∈ catalog, old.name = entry.name ∧ old.active := by
  rw [activate?] at hactivate
  split at hactivate
  · cases hactivate
    obtain ⟨old, hold, rfl⟩ := List.mem_map.mp hmem
    split
    · next hname => exact .inl hname
    · next hname =>
      rw [if_neg hname] at hactive
      exact .inr ⟨old, hold, rfl, hactive⟩
  · cases hactivate

/-- Whether a catalog has a plugin on offer under a name. -/
def Offers (catalog : Catalog η) (name : Text) (fresh : η) : Prop :=
  ∃ entry ∈ catalog, entry.name = name ∧ entry.fresh = fresh

theorem offers_of_activate? {catalog catalog' : Catalog η} {name : Text}
    (hactivate : catalog.activate? name = some catalog') {n : Text} {fresh : η}
    (hoffers : catalog'.Offers n fresh) : catalog.Offers n fresh := by
  obtain ⟨entry, hmem, rfl, rfl⟩ := hoffers
  rw [activate?] at hactivate
  split at hactivate
  · cases hactivate
    obtain ⟨old, hold, rfl⟩ := List.mem_map.mp hmem
    refine ⟨old, hold, ?_⟩
    split <;> exact ⟨rfl, rfl⟩
  · cases hactivate

theorem mem_pending {catalog : Catalog η} {registry : Registry η} {entry : CatalogEntry η} :
    entry ∈ catalog.pending registry ↔
      entry ∈ catalog ∧ entry.active ∧ registry.contains entry.name = false := by
  rw [pending, List.mem_filter, Bool.and_eq_true, Bool.not_eq_true']

end Catalog

namespace Registry

variable {η : Type}

/-- The registry in which everything that is active is registered. -/
def withActive (registry : Registry η) (catalog : Catalog η) : Registry η :=
  (catalog.pending registry).foldl
    (fun registry entry => registry.register entry.name entry.fresh) registry

theorem grown_withActive (registry : Registry η) (catalog : Catalog η) :
    Grown ((catalog.pending registry).map CatalogEntry.name) registry
      (registry.withActive catalog) := by
  rw [withActive]
  generalize catalog.pending registry = entries
  induction entries generalizing registry with
  | nil => exact .refl registry
  | cons entry entries ih => exact (grown_register registry entry.name entry.fresh).trans (ih _)

/-- The handles that are added are those of catalog entries as they start. -/
theorem exists_withActive_eq_append (registry : Registry η) (catalog : Catalog η) :
    ∃ added, (registry.withActive catalog).handles = registry.handles ++ added ∧
      ∀ handle ∈ added, ∃ name fresh, handle = ⟨name, some fresh, false⟩ ∧
        catalog.Offers name fresh := by
  have hpending : ∀ entry ∈ catalog.pending registry, entry ∈ catalog := fun entry hentry =>
    (Catalog.mem_pending.mp hentry).1
  rw [withActive]
  generalize catalog.pending registry = entries at hpending
  induction entries generalizing registry with
  | nil => exact ⟨[], (List.append_nil _).symm, by simp⟩
  | cons entry entries ih =>
    obtain ⟨added, hadded, hfresh⟩ :=
      ih (registry.register entry.name entry.fresh) fun other hother =>
        hpending other (List.mem_cons_of_mem _ hother)
    rw [List.foldl_cons, hadded, register]
    cases hregister : registry.register? entry.name entry.fresh with
    | none => exact ⟨added, rfl, hfresh⟩
    | some registry' =>
      obtain ⟨-, hhandles⟩ := register?_eq_some_iff.mp hregister
      refine ⟨⟨entry.name, some entry.fresh, false⟩ :: added, by simp [hhandles], ?_⟩
      intro handle hmem
      rcases List.mem_cons.mp hmem with rfl | hmem
      · exact ⟨entry.name, entry.fresh, rfl, entry, hpending entry List.mem_cons_self, rfl, rfl⟩
      · exact hfresh handle hmem

theorem registered_withActive (registry : Registry η) (catalog : Catalog η) :
    catalog.Registered (registry.withActive catalog) := by
  intro entry hmem hactive
  rw [(grown_withActive registry catalog).contains]
  cases hcontains : registry.contains entry.name with
  | true => exact .inl rfl
  | false =>
    exact .inr (List.mem_map_of_mem (Catalog.mem_pending.mpr ⟨hmem, hactive, hcontains⟩))

end Registry

end Stencil
