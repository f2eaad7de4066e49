import Mathlib.Algebra.GroupWithZero.Nat
import Mathlib.Algebra.Order.BigOperators.Group.List
import Mathlib.Algebra.Order.Group.Nat
import Stencil.Context
import Stencil.Proofs.Registry.Growth

namespace Stencil

variable {η : Type}

/-- The weight of a plugin whose hook has not been started. -/
def Handle.waiting (weight : η → Nat) (handle : Handle η) : Nat :=
  if handle.initialized then 0 else handle.plugin.elim 0 weight

/-- One for a handle whose hook has not been started. -/
def Handle.unstarted (handle : Handle η) : Nat :=
  if handle.initialized then 0 else 1

namespace Registry

/-- The sum of a measure over all handles. -/
def total (measure : Handle η → Nat) (registry : Registry η) : Nat :=
  (registry.handles.map measure).sum

theorem total_of_handles_eq_append (measure : Handle η → Nat) {registry registry' : Registry η}
    {handle : Handle η} (hhandles : registry'.handles = registry.handles ++ [handle]) :
    registry'.total measure = registry.total measure + measure handle := by
  rw [total, hhandles, List.map_append, List.sum_append, List.map_singleton, List.sum_singleton,
    total]

/-- A change of one handle changes one summand. -/
theorem total_modify (measure : Handle η → Nat) {registry : Registry η} {name : Text}
    {handle : Handle η} (hlookup : registry.lookup name = some handle)
    (change : Handle η → Handle η) (hchange : ∀ handle, (change handle).name = handle.name) :
    (registry.modify name change hchange).total measure + measure handle =
      registry.total measure + measure (change handle) := by
  obtain ⟨before, behind, hhandles, hchanged⟩ := exists_split_of_lookup hchange hlookup
  rw [total, total, hhandles, hchanged]
  simp only [List.map_append, List.map_cons, List.sum_append, List.sum_cons]
  omega

theorem modify_of_lookup_eq_none {registry : Registry η} {name : Text}
    (hlookup : registry.lookup name = none) {change : Handle η → Handle η}
    (hchange : ∀ handle, (change handle).name = handle.name) :
    registry.modify name change hchange = registry := by
  refine eq_of_handles_eq ?_
  rw [handles_modify]
  refine (List.map_congr_left fun handle hmem => ?_).trans (List.map_id _)
  refine if_neg fun hname => ?_
  rw [← hname, lookup_of_mem hmem] at hlookup
  cases hlookup

end Registry

namespace Catalog

/-- The weight of the plugins on offer that are not registered. -/
def unregistered (weight : η → Nat) (catalog : Catalog η) (registry : Registry η) : Nat :=
  (catalog.map fun entry =>
    if registry.contains entry.name then 0 else weight entry.fresh).sum

variable (weight : η → Nat) {catalog catalog' : Catalog η} {registry registry' : Registry η}

theorem unregistered_congr (hsame : ∀ n, registry'.contains n = registry.contains n) :
    catalog.unregistered weight registry' = catalog.unregistered weight registry := by
  simp only [unregistered, hsame]

theorem unregistered_le (hkept : ∀ n, registry.contains n → registry'.contains n) :
    catalog.unregistered weight registry' ≤ catalog.unregistered weight registry := by
  refine List.sum_le_sum fun entry _ => ?_
  by_cases hcontains : registry.contains entry.name
  · simp [hcontains, hkept]
  · rw [if_neg hcontains]
    split
    · exact Nat.zero_le _
    · exact le_rfl

/-- When a plugin on offer is registered, its weight is taken away. -/
theorem unregistered_add_le {entry : CatalogEntry η} (hmem : entry ∈ catalog)
    (hfree : registry.contains entry.name = false) (hregistered : registry'.contains entry.name)
    (hkept : ∀ n, registry.contains n → registry'.contains n) :
    catalog.unregistered weight registry' + weight entry.fresh ≤
      catalog.unregistered weight registry := by
  obtain ⟨before, after, rfl⟩ := List.append_of_mem hmem
  have hbefore : unregistered weight before registry' ≤ unregistered weight before registry :=
    unregistered_le weight hkept
  have hafter : unregistered weight after registry' ≤ unregistered weight after registry :=
    unregistered_le weight hkept
  simp only [unregistered, List.map_append, List.map_cons, List.sum_append, List.sum_cons, hfree,
    if_pos hregistered, Bool.false_eq_true, if_false] at hbefore hafter ⊢
  omega

theorem unregistered_activate? {name : Text} (hactivate : catalog.activate? name = some catalog') :
    catalog'.unregistered weight registry = catalog.unregistered weight registry := by
  rw [activate?] at hactivate
  split at hactivate
  · cases hactivate
    rw [unregistered, List.map_map, unregistered]
    congr 1
    apply List.map_congr_left
    intro entry _
    rw [Function.comp_apply]
    split <;> rfl
  · cases hactivate

end Catalog

namespace Registry

variable {weight : η → Nat} {catalog : Catalog η} {registry registry' : Registry η} {name : Text}
  {plugin : η}

/-- The weight of all hooks that have not been started, those of the plugins on offer included. -/
def outstanding (weight : η → Nat) (registry : Registry η) (catalog : Catalog η) : Nat :=
  registry.total (Handle.waiting weight) + catalog.unregistered weight registry

/-- A plugin that is registered on request adds its weight. -/
theorem outstanding_register? (hregister : registry.register? name plugin = some registry') :
    registry'.outstanding weight catalog ≤ registry.outstanding weight catalog + weight plugin := by
  have hkept : ∀ n, registry.contains n → registry'.contains n := fun n hcontains =>
    ((grown_of_register? hregister).contains n).mpr (.inl hcontains)
  have hunregistered := catalog.unregistered_le weight hkept
  obtain ⟨-, hhandles⟩ := register?_eq_some_iff.mp hregister
  have hwaiting : Handle.waiting weight ⟨name, some plugin, false⟩ = weight plugin := rfl
  rw [outstanding, total_of_handles_eq_append _ hhandles, hwaiting, outstanding]
  omega

/-- A plugin that is registered because it is on offer adds nothing. -/
theorem outstanding_register {entry : CatalogEntry η} (hmem : entry ∈ catalog) :
    (registry.register entry.name entry.fresh).outstanding weight catalog ≤
      registry.outstanding weight catalog := by
  rw [register]
  cases hregister : registry.register? entry.name entry.fresh with
  | none => exact le_rfl
  | some registry' =>
    have hgrown := grown_of_register? hregister
    obtain ⟨hfree, hhandles⟩ := register?_eq_some_iff.mp hregister
    have hunregistered := Catalog.unregistered_add_le weight hmem hfree
      ((hgrown.contains entry.name).mpr (.inr List.mem_cons_self))
      fun n hcontains => (hgrown.contains n).mpr (.inl hcontains)
    have hwaiting : Handle.waiting weight ⟨entry.name, some entry.fresh, false⟩ =
      weight entry.fresh := rfl
    rw [Option.getD_some, outstanding, total_of_handles_eq_append _ hhandles, hwaiting, outstanding]
    omega

theorem outstanding_withActive (registry : Registry η) (catalog : Catalog η) :
    (registry.withActive catalog).outstanding weight catalog ≤
      registry.outstanding weight catalog := by
  have hpending : ∀ entry ∈ catalog.pending registry, entry ∈ catalog := fun entry hentry =>
    (Catalog.mem_pending.mp hentry).1
  rw [withActive]
  generalize catalog.pending registry = entries at hpending
  induction entries generalizing registry with
  | nil => exact le_rfl
  | cons entry entries ih =>
    obtain ⟨hentry, hentries⟩ := List.forall_mem_cons.mp hpending
    exact (ih _ hentries).trans (outstanding_register hentry)

theorem outstanding_modify (weight : η → Nat) (catalog : Catalog η) {handle : Handle η}
    (hlookup : registry.lookup name = some handle) (change : Handle η → Handle η)
    (hchange : ∀ handle, (change handle).name = handle.name) :
    (registry.modify name change hchange).outstanding weight catalog + handle.waiting weight =
      registry.outstanding weight catalog + (change handle).waiting weight := by
  have htotal := total_modify (Handle.waiting weight) hlookup change hchange
  have hsame : catalog.unregistered weight (registry.modify name change hchange) =
      catalog.unregistered weight registry :=
    Catalog.unregistered_congr weight (contains_modify hchange registry)
  rw [outstanding, outstanding, hsame]
  omega

/-- The start of a hook takes the weight of its plugin away. -/
theorem outstanding_beginHook (hnext : registry.nextUninitialized? = some (name, plugin)) :
    (registry.beginHook name).outstanding weight catalog + weight plugin =
      registry.outstanding weight catalog := by
  have hlookup := lookup_of_mem (mem_of_nextUninitialized? hnext)
  exact outstanding_modify weight catalog hlookup
    (fun handle => { handle with plugin := none, initialized := true }) fun _ => rfl

theorem unstarted_beginHook (hnext : registry.nextUninitialized? = some (name, plugin)) :
    (registry.beginHook name).total Handle.unstarted + 1 = registry.total Handle.unstarted :=
  total_modify Handle.unstarted (lookup_of_mem (mem_of_nextUninitialized? hnext))
    (fun handle => { handle with plugin := none, initialized := true }) fun _ => rfl

theorem unstarted_restore (registry : Registry η) (name : Text) (plugin : η) :
    (registry.restore name plugin).total Handle.unstarted = registry.total Handle.unstarted := by
  cases hlookup : registry.lookup name with
  | none => rw [restore, modify_of_lookup_eq_none hlookup]
  | some handle =>
    have hunstarted := total_modify Handle.unstarted hlookup
      (fun handle => { handle with plugin := some plugin }) fun _ => rfl
    exact Nat.add_right_cancel hunstarted

/-- While a plugin is out of its place, it does not wait. -/
theorem outstanding_lend? (hlend : registry.lend? name = some (plugin, registry')) :
    registry'.outstanding weight catalog +
        (if registry.isStarted name then 0 else weight plugin) =
      registry.outstanding weight catalog := by
  obtain ⟨handle, hlookup, hplugin, rfl⟩ := lend?_eq_some_iff.mp hlend
  have hmodify := outstanding_modify weight catalog hlookup
    (fun handle => { handle with plugin := none }) fun _ => rfl
  have hwaiting : handle.waiting weight = if registry.isStarted name then 0 else weight plugin := by
    rw [Handle.waiting, hplugin, isStarted, hlookup]
    rfl
  have hout : ({ handle with plugin := none } : Handle η).waiting weight = 0 := by
    rw [Handle.waiting]
    split <;> rfl
  rw [hwaiting, hout] at hmodify
  exact hmodify

/-- A plugin that is put back waits only if its hook has not been started. -/
theorem outstanding_restore (registry : Registry η) (name : Text) (plugin : η) :
    (registry.restore name plugin).outstanding weight catalog ≤
      registry.outstanding weight catalog +
        if registry.isStarted name then 0 else weight plugin := by
  cases hlookup : registry.lookup name with
  | none =>
    rw [restore, modify_of_lookup_eq_none hlookup]
    exact Nat.le_add_right _ _
  | some handle =>
    have hmodify := outstanding_modify weight catalog hlookup
      (fun handle => { handle with plugin := some plugin }) fun _ => rfl
    have hwaiting : ({ handle with plugin := some plugin } : Handle η).waiting weight =
        if registry.isStarted name then 0 else weight plugin := by
      rw [Handle.waiting, isStarted, hlookup]
      rfl
    rw [hwaiting] at hmodify
    rw [restore]
    omega

end Registry

end Stencil
