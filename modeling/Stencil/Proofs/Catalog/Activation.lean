import Mathlib.Data.List.Nodup
import Stencil.Proofs.Registry.Growth

namespace Stencil

namespace Catalog

variable {η : Type}

/-- The plugin that is on offer under a name. -/
def get? (catalog : Catalog η) (name : Text) : Option η :=
  (catalog.find? fun entry => entry.name = name).map CatalogEntry.fresh

/-- The catalog in which just the entries of the given names are active. -/
def activated (catalog : Catalog η) (names : List Text) : Catalog η :=
  catalog.map fun entry => { entry with active := decide (entry.name ∈ names) }

/-- Whether a name has no entry that is not active. -/
def IsActive (catalog : Catalog η) (name : Text) : Prop :=
  ∀ entry ∈ catalog, entry.name = name → entry.active

theorem contains_iff_mem_names (catalog : Catalog η) (name : Text) :
    catalog.contains name ↔ name ∈ catalog.names := by
  simp [contains, names]

theorem get?_cons (entry : CatalogEntry η) (catalog : Catalog η) (name : Text) :
    get? (entry :: catalog) name =
      if entry.name = name then some entry.fresh else catalog.get? name := by
  by_cases hname : entry.name = name
  · simp [get?, hname]
  · simp [get?, hname]

theorem get?_eq_none_iff {catalog : Catalog η} {name : Text} :
    catalog.get? name = none ↔ name ∉ catalog.names := by
  simp [get?, names]

theorem mem_names_of_get? {catalog : Catalog η} {name : Text} {fresh : η}
    (hget : catalog.get? name = some fresh) : name ∈ catalog.names := by
  by_contra hname
  rw [get?_eq_none_iff.mpr hname] at hget
  cases hget

section Offering

theorem get?_append_singleton (catalog : Catalog η) (entry : CatalogEntry η) (name : Text) :
    get? (catalog ++ [entry]) name =
      (catalog.get? name).or (if entry.name = name then some entry.fresh else none) := by
  induction catalog with
  | nil => simp [get?]
  | cons first catalog ih =>
    rw [List.cons_append, get?_cons, get?_cons, ih]
    split <;> rfl

theorem names_register (catalog : Catalog η) (name : Text) (fresh : η) :
    (catalog.register name fresh).names =
      if name ∈ catalog.names then catalog.names else catalog.names ++ [name] := by
  rw [register, register?]
  by_cases hname : name ∈ catalog.names
  · rw [if_pos hname, if_pos ((contains_iff_mem_names catalog name).mpr hname)]
    rfl
  · rw [if_neg hname, if_neg (hname ∘ (contains_iff_mem_names catalog name).mp)]
    simp [names]

/-- The first plugin that is added under a name is the one on offer. -/
theorem get?_register (catalog : Catalog η) (name : Text) (fresh : η) (n : Text) :
    (catalog.register name fresh).get? n =
      (catalog.get? n).or (if n = name then some fresh else none) := by
  rw [register, register?]
  by_cases hcontains : catalog.contains name
  · rw [if_pos hcontains, Option.getD_none]
    by_cases hn : n = name
    · obtain ⟨entry, hmem, hentry⟩ := List.any_eq_true.mp hcontains
      have hsome : (catalog.get? n).isSome := by
        rw [get?, Option.isSome_map, List.find?_isSome]
        exact ⟨entry, hmem, by simpa [hn] using hentry⟩
      obtain ⟨plugin, hplugin⟩ := Option.isSome_iff_exists.mp hsome
      rw [hplugin, Option.some_or]
    · rw [if_neg hn, Option.or_none]
  · rw [if_neg hcontains, Option.getD_some, get?_append_singleton]
    simp [eq_comm]

theorem nodup_names_offering (plugins : List (Text × η)) : (offering plugins).names.Nodup := by
  have hfold : ∀ catalog : Catalog η, catalog.names.Nodup →
      (names (plugins.foldl (fun catalog plugin => catalog.register plugin.1 plugin.2)
        catalog)).Nodup := by
    induction plugins with
    | nil => exact fun _ hnodup => hnodup
    | cons plugin plugins ih =>
      refine fun catalog hnodup => ih _ ?_
      rw [names_register]
      split
      · exact hnodup
      · rw [← List.concat_eq_append]
        exact hnodup.concat ‹_›
  exact hfold [] List.nodup_nil

theorem get?_offering (plugins : List (Text × η)) (name : Text) :
    (offering plugins).get? name = plugins.lookup name := by
  have hfold : ∀ catalog : Catalog η,
      get? (plugins.foldl (fun catalog plugin => catalog.register plugin.1 plugin.2) catalog) name =
        (catalog.get? name).or (plugins.lookup name) := by
    induction plugins with
    | nil =>
      intro catalog
      rw [List.foldl_nil, List.lookup_nil, Option.or_none]
    | cons plugin plugins ih =>
      obtain ⟨name', fresh⟩ := plugin
      intro catalog
      rw [List.foldl_cons, ih, get?_register, Option.or_assoc, List.lookup_cons]
      congr 1
      by_cases hname : name = name'
      · simp [hname]
      · simp [hname, beq_eq_false_iff_ne.mpr hname]
  exact (hfold []).trans Option.none_or

theorem activated_nil_offering (plugins : List (Text × η)) :
    (offering plugins).activated [] = offering plugins := by
  have hid : ∀ entry ∈ offering plugins,
      { entry with active := decide (entry.name ∈ ([] : List Text)) } = entry := by
    intro entry hmem
    have hinert := active_eq_false_of_mem_offering hmem
    obtain ⟨name, fresh, active⟩ := entry
    simp [show active = false from hinert]
  rw [activated, List.map_congr_left hid, List.map_id']

end Offering

section Activated

variable (catalog : Catalog η) {names : List Text} {name : Text}

theorem names_activated (names : List Text) : (catalog.activated names).names = catalog.names := by
  simp [activated, Catalog.names]

/-- To activate a name that is on offer is to add it to the names that have been activated. -/
theorem activate?_activated (names : List Text) (hname : name ∈ catalog.names) :
    (catalog.activated names).activate? name = some (catalog.activated (names ++ [name])) := by
  have hcontains : (catalog.activated names).contains name := by
    rw [contains_iff_mem_names, names_activated]
    exact hname
  rw [activate?, if_pos hcontains, activated, activated, List.map_map]
  congr 1
  apply List.map_congr_left
  intro entry _
  by_cases hentry : entry.name = name
  · simp [hentry]
  · simp [hentry]

theorem activate?_eq_none {catalog : Catalog η} (hname : name ∉ catalog.names) :
    catalog.activate? name = none :=
  if_neg (hname ∘ (contains_iff_mem_names catalog name).mp)

/-- What waits to be registered, where all names that have been activated are registered but one. -/
theorem pending_activated {catalog : Catalog η} (hnodup : catalog.names.Nodup)
    {registry : Registry η} (hnames : registry.names = names) (hnew : name ∉ names) {fresh : η}
    (hget : catalog.get? name = some fresh) :
    (catalog.activated (names ++ [name])).pending registry = [⟨name, fresh, true⟩] := by
  have hcontains : ∀ n, registry.contains n = decide (n ∈ names) := by
    intro n
    rw [Bool.eq_iff_iff, Registry.contains_iff_mem_names, hnames]
    simp
  have hnone : ∀ entries : Catalog η, name ∉ entries.names →
      (activated entries (names ++ [name])).pending registry = [] := by
    intro entries hfree
    refine List.eq_nil_iff_forall_not_mem.mpr fun entry hmem => ?_
    obtain ⟨hentry, hactive, hunregistered⟩ := mem_pending.mp hmem
    obtain ⟨old, hold, rfl⟩ := List.mem_map.mp hentry
    rw [hcontains] at hunregistered
    simp only [List.mem_append, List.mem_singleton, decide_eq_true_eq, decide_eq_false_iff_not]
      at hactive hunregistered
    exact hfree (List.mem_map.mpr ⟨old, hold, hactive.resolve_left hunregistered⟩)
  induction catalog with
  | nil => cases hget
  | cons entry catalog ih =>
    obtain ⟨hfresh, hnodup⟩ := List.nodup_cons.mp hnodup
    rw [get?_cons] at hget
    by_cases hname : entry.name = name
    · rw [if_pos hname] at hget
      cases hget
      rw [hname] at hfresh
      have hrest := hnone catalog hfresh
      rw [pending, activated] at hrest ⊢
      rw [List.map_cons, List.filter_cons_of_pos, hrest, hname]
      · simp
      · simp [hname, hcontains, hnew]
    · rw [if_neg hname] at hget
      have hrest := ih hnodup hget
      rw [pending, activated] at hrest ⊢
      rw [List.map_cons, List.filter_cons_of_neg, hrest]
      simp [hname, hcontains]

end Activated

section IsActive

variable {catalog catalog' : Catalog η} {name n : Text}

theorem isActive_of_activate? (hactivate : catalog.activate? name = some catalog')
    (hactive : catalog.IsActive n) : catalog'.IsActive n := by
  rw [activate?] at hactivate
  split at hactivate
  · cases hactivate
    intro entry hmem hn
    obtain ⟨old, hold, rfl⟩ := List.mem_map.mp hmem
    by_cases hname : old.name = name
    · rw [if_pos hname]
    · rw [if_neg hname] at hn ⊢
      exact hactive old hold hn
  · cases hactivate

/-- The activation of a name that is active changes nothing. -/
theorem eq_of_activate?_of_isActive (hactivate : catalog.activate? name = some catalog')
    (hactive : catalog.IsActive name) : catalog' = catalog := by
  rw [activate?] at hactivate
  split at hactivate
  · cases hactivate
    have hid : ∀ entry ∈ catalog,
        (if entry.name = name then { entry with active := true } else entry) = entry := by
      intro entry hmem
      split
      · next hname =>
        have htrue := hactive entry hmem hname
        obtain ⟨name, fresh, active⟩ := entry
        simp [show active = true from htrue]
      · rfl
    rw [List.map_congr_left hid, List.map_id']
  · cases hactivate

theorem isActive_activated (catalog : Catalog η) {names : List Text} (hmem : n ∈ names) :
    (catalog.activated names).IsActive n := by
  intro entry hentry hn
  obtain ⟨old, -, rfl⟩ := List.mem_map.mp hentry
  obtain rfl : old.name = n := hn
  exact decide_eq_true hmem

end IsActive

end Catalog

end Stencil
